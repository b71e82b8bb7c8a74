import TryTrust.Agent.Trajectories
import TryTrust.Conc.Possible

/-!
# The step budget of a run

How many nodes a call of `run_until_pause` can enter, whatever is answered.

* `Goes`: the moves of the graph; `handler_goes`: every node makes one of them;
* `need`: how many nodes a run may still enter; `loop_enough`: budgets that are enough are all the
  same;
* `perceive_can` … `receipt_can`: the longest way through the graph;
* **`budget_exact`**: from the first node, a step budget has no effect exactly when it is at least
  `need`; that is twelve for a purchase and four for a search.
-/

namespace TryTrust.Agent.Orchestrator

open Conc

/-! ## The moves of the graph -/

/-- What the moves depend on. -/
def pace (run : AgentRun) : Mode × ℕ := (run.state.requestMode, run.state.replans)

/-- **The moves**: from `n` to `m`, with the attempts before and after. -/
def Goes (mode : Mode) (n : Node) (replans : ℕ) (m : Node) (replans' : ℕ) : Prop :=
  match n with
  | .perceive => m = .search ∧ replans' = replans
  | .search => (m = .propose ∨ m = .denied) ∧ replans' = replans
  | .propose =>
    (m = .gate ∧ mode = .purchase ∨ m = .done ∨ m = .denied) ∧ replans' = replans
  | .gate =>
    (m = .receipt ∨ m = .awaitHuman ∨ m = .denied) ∧ replans' = replans ∨
      m = .search ∧ replans < maxReplans ∧ replans' = replans + 1
  | .receipt => m = .done ∧ replans' = replans
  | _ => False

/-- What a node may leave of a run with this pace. -/
def GoesOn (n : Node) (p : Mode × ℕ) (r : Except GraphErr Next) (run : AgentRun) : Prop :=
  run.state.requestMode = p.1 ∧ ∀ m, r = .ok (.node m) → Goes p.1 n p.2 m run.state.replans

/-- The pace is kept. -/
abbrev Even (p : Mode × ℕ) {α : Type} (_ : Except GraphErr α) (run : AgentRun) : Prop :=
  pace run = p

section Moves

variable {K : Deps} {run : AgentRun} {p : Mode × ℕ} {α β : Type}

theorem even_bind {j : Work α} {f : α → Work β} {R : Except GraphErr β → AgentRun → Prop}
    (hj : j.Returns (Even p) run) (hf : ∀ a run', pace run' = p → (f a).Returns R run')
    (he : ∀ e run', pace run' = p → R (.error e) run') : (j >>= f).Returns R run :=
  Job.returns_bind hj hf he

/-- Reading first. -/
theorem goes_read {R : Except GraphErr β → AgentRun → Prop} {f : AgentRun → Work β}
    (h : (f run).Returns R run) : (Job.read >>= f).Returns R run := h

theorem lift_even (h : pace run = p) (q : Task α) : (Job.lift q : Work α).Returns (Even p) run :=
  Job.returns_lift (Prog.returns_of_forall (fun _ => h) q)

theorem save_even (h : pace run = p) (node : Node) (status : Option TryTrust.Agent.Graph.RunStatus)
    (escalationId : Option String) (event : Fields) :
    (save node status escalationId event).Returns (Even p) run := by
  refine goes_read (even_bind (lift_even h _) (fun _ run' h => ?_) fun _ _ h => h)
  refine even_bind (lift_even h _) (fun _ run' h => ?_) fun _ _ h => h
  exact Job.returns_edit h

theorem goesOn_error {n : Node} (e : GraphErr) (h : pace run = p) :
    GoesOn n p (.error e) run :=
  ⟨congrArg Prod.fst h, fun m hm => by cases hm⟩

/-- A call first. -/
theorem goes_ask {n : Node} {op : Op} {f : Reply op → Work Next} (h : pace run = p)
    (hf : ∀ a run', pace run' = p → (f a).Returns (GoesOn n p) run') :
    (ask op >>= f).Returns (GoesOn n p) run :=
  even_bind (lift_even h _) hf fun e _ h => goesOn_error e h

/-- A program first. -/
theorem goes_lift {n : Node} {q : Task α} {f : α → Work Next} (h : pace run = p)
    (hf : ∀ a run', pace run' = p → (f a).Returns (GoesOn n p) run') :
    (Job.lift q >>= f).Returns (GoesOn n p) run :=
  even_bind (lift_even h _) hf fun e _ h => goesOn_error e h

/-- Saving first. -/
theorem goes_save {n m : Node} {status : Option TryTrust.Agent.Graph.RunStatus}
    {escalationId : Option String} {event : Fields} {f : Unit → Work Next} (h : pace run = p)
    (hf : ∀ run', pace run' = p → (f ()).Returns (GoesOn n p) run') :
    (save m status escalationId event >>= f).Returns (GoesOn n p) run :=
  even_bind (save_even h m status escalationId event) (fun _ => hf) fun e _ h => goesOn_error e h

/-- A change that keeps the pace first. -/
theorem goes_setState {n : Node} {f : RunState → RunState} {j : Unit → Work Next}
    (h : pace run = p) (hf : pace { run with state := f run.state } = pace run)
    (hj : ∀ run', pace run' = p → (j ()).Returns (GoesOn n p) run') :
    (setState f >>= j).Returns (GoesOn n p) run :=
  even_bind (Job.returns_edit (hf.trans h)) (fun _ => hj) fun e _ h => goesOn_error e h

theorem goes_pure {n : Node} {next : Next} (h : pace run = p)
    (hnext : ∀ m, next = .node m → Goes p.1 n p.2 m run.state.replans) :
    (pure next : Work Next).Returns (GoesOn n p) run :=
  Job.returns_pure ⟨congrArg Prod.fst h, fun m hm => hnext m (Except.ok.inj hm)⟩

theorem readCriteria_even (h : pace run = p) (run' : AgentRun) :
    (readCriteria run').Returns (Even p) run := by
  refine Job.returns_ite (fun _ => Job.returns_pure h) fun _ => ?_
  exact even_bind (lift_even h _) (fun _ run h => lift_even h _) fun _ _ h => h

theorem choose_even (h : pace run = p) (run' : AgentRun) :
    (choose K run').Returns (Even p) run := by
  refine Job.returns_ite (fun _ => lift_even h _) fun _ => ?_
  exact even_bind (lift_even h _) (fun _ run h => lift_even h _) fun _ _ h => h

theorem perceive_goes (h : pace run = p) : (nodePerceive K).Returns (GoesOn .perceive p) run := by
  refine goes_read (goes_ask h fun ontology run h => goes_ask h fun claims run h =>
    goes_ask h fun summary run h => goes_setState h rfl fun run h => goes_read ?_)
  refine even_bind (readCriteria_even h run) (fun criteria run h => goes_setState h rfl
    fun run h => goes_save h fun run h => goes_pure h ?_) fun e _ h => goesOn_error e h
  rintro m hm
  cases hm
  exact ⟨rfl, congrArg Prod.snd h⟩

theorem search_goes (h : pace run = p) : (nodeSearch K).Returns (GoesOn .search p) run := by
  refine goes_read (goes_ask h fun _ run h => goes_lift h fun offers run h =>
    goes_setState h rfl fun run h => goes_read ?_)
  refine goes_save h fun run' h' => goes_ask h' fun _ run' h' => goes_pure h' ?_
  rintro m hm
  cases hm
  refine ⟨?_, congrArg Prod.snd h'⟩
  split
  · exact .inr rfl
  · exact .inl rfl

theorem propose_goes (h : pace run = p) : (nodePropose K).Returns (GoesOn .propose p) run := by
  have hmode : run.state.requestMode = p.1 := congrArg Prod.fst h
  refine goes_read (even_bind (choose_even h run) (fun offer run' h' => goes_setState h' rfl
    fun run' h' => goes_save h' fun run' h' => goes_pure h' ?_) fun e _ h => goesOn_error e h)
  rintro m hm
  have hgate := nodeOk_afterPropose (V := Trail.empty.vouch) run.state offer
  rw [hmode, Next.node.inj hm] at hgate
  have hplace : m = .done ∨ m = .gate ∨ m = .denied := by
    rw [← Next.node.inj hm, afterPropose]
    split_ifs <;> simp
  refine ⟨?_, congrArg Prod.snd h'⟩
  rcases hplace with rfl | rfl | rfl
  · exact .inr (.inl rfl)
  · exact .inl ⟨rfl, hgate.purchase (.inl rfl)⟩
  · exact .inr (.inr rfl)

/-- The moves after the answer of the kernel. -/
theorem goes_afterGate {st st' : RunState} (hmode : st'.requestMode = p.1)
    (hreplans : st.replans = p.2) (hreplans' : st'.replans = p.2) (r : Result) {m : Node}
    (hm : afterGate st r = .node m) :
    (gated r st').requestMode = p.1 ∧ Goes p.1 .gate p.2 m (gated r st').replans := by
  have hsame : afterGate st' r = .node m := by
    rw [← hm, afterGate, afterGate, hreplans, hreplans']
  refine ⟨(gated_mode r st').trans hmode, ?_⟩
  by_cases hsearch : m = .search
  · subst hsearch
    rcases afterGate_cases st r with ⟨hgo, -⟩ | hgo | ⟨-, -, hfew⟩ | hgo
    · cases hgo.symm.trans hm
    · cases hgo.symm.trans hm
    · exact .inr ⟨rfl, hreplans ▸ hfew, by rw [gated_replans hsame, hreplans']⟩
    · cases hgo.symm.trans hm
  · have hkeep : (gated r st').replans = p.2 := by
      rw [gated, if_neg]
      · exact hreplans'
      · rw [hsame]
        rintro ⟨⟩
        exact hsearch rfl
    refine .inl ⟨?_, hkeep⟩
    rcases afterGate_cases st r with ⟨hgo, -⟩ | hgo | ⟨hgo, -⟩ | hgo
    all_goals cases hgo.symm.trans hm
    · exact .inl rfl
    · exact .inr (.inl rfl)
    · exact absurd rfl hsearch
    · exact .inr (.inr rfl)

theorem gate_goes (h : pace run = p) : nodeGate.Returns (GoesOn .gate p) run := by
  refine goes_save h fun run h => goes_read ?_
  cases proposedOffer run.state with
  | error e => exact Job.returns_raise (goesOn_error e h)
  | ok choice =>
    refine even_bind (lift_even h _) (fun r run' h' => ?_) fun e _ h => goesOn_error e h
    refine Job.returns_bind (Q := fun _ run'' => run'' =
      { run' with state := gated r run'.state }) (Job.returns_edit rfl) ?_ ?_
    · rintro _ _ rfl
      refine Job.returns_pure ⟨?_, fun m hm => (goes_afterGate (congrArg Prod.fst h')
        (congrArg Prod.snd h) (congrArg Prod.snd h') r (Except.ok.inj hm)).2⟩
      exact (gated_mode r run'.state).trans (congrArg Prod.fst h')
    · rintro e _ rfl
      exact ⟨(gated_mode r run'.state).trans (congrArg Prod.fst h'), fun m hm => by cases hm⟩

theorem awaitHuman_goes (h : pace run = p) :
    nodeAwaitHuman.Returns (GoesOn .awaitHuman p) run := by
  refine goes_read ?_
  cases run.state.result with
  | none => exact Job.returns_raise (goesOn_error _ h)
  | some r =>
    cases hid : r.escalationId with
    | none =>
      simp only [hid]
      exact Job.returns_raise (goesOn_error _ h)
    | some id =>
      simp only [hid]
      exact goes_save h fun run h => goes_pure h fun m hm => by cases hm

theorem receipt_goes (h : pace run = p) : nodeReceipt.Returns (GoesOn .receipt p) run := by
  refine goes_read ?_
  cases run.state.result with
  | none => exact Job.returns_raise (goesOn_error _ h)
  | some r =>
    refine goes_save h fun run h => goes_pure h ?_
    rintro m hm
    cases hm
    exact ⟨rfl, congrArg Prod.snd h⟩

/-- **Every node** makes one of the moves. -/
theorem handler_goes (n : Node) : (handler K n).Returns (GoesOn n (pace run)) run := by
  cases n with
  | perceive => exact perceive_goes rfl
  | search => exact search_goes rfl
  | propose => exact propose_goes rfl
  | gate => exact gate_goes rfl
  | awaitHuman => exact awaitHuman_goes rfl
  | receipt => exact receipt_goes rfl
  | done => exact goes_save rfl fun run h => goes_pure h fun m hm => by cases hm
  | denied =>
    exact goes_read (goes_save rfl fun run h => goes_pure h fun m hm => by cases hm)

/-! ## Budgets that are enough -/

/-- **How many nodes a run may still enter**, this one included. -/
def need (mode : Mode) (replans : ℕ) : Node → ℕ
  | .perceive => 3 + (if mode = .purchase then 3 + 3 * (maxReplans - replans) else 1)
  | .search => 2 + (if mode = .purchase then 3 + 3 * (maxReplans - replans) else 1)
  | .propose => 1 + (if mode = .purchase then 3 + 3 * (maxReplans - replans) else 1)
  | .gate => 3 + 3 * (maxReplans - replans)
  | .receipt => 2
  | _ => 1

theorem need_pos (mode : Mode) (replans : ℕ) (n : Node) : 1 ≤ need mode replans n := by
  cases n <;> simp only [need] <;> omega

/-- Every move uses one step. -/
theorem need_of_goes {mode : Mode} {n m : Node} {replans replans' : ℕ}
    (h : Goes mode n replans m replans') : need mode replans' m + 1 ≤ need mode replans n := by
  cases n with
  | perceive =>
    obtain ⟨rfl, rfl⟩ := h
    simp only [need]
    omega
  | search =>
    obtain ⟨rfl | rfl, rfl⟩ := h
    all_goals
      simp only [need]
      omega
  | propose =>
    obtain ⟨⟨rfl, rfl⟩ | rfl | rfl, rfl⟩ := h
    · simp only [need, if_true]
      omega
    · simp only [need]
      split_ifs <;> omega
    · simp only [need]
      split_ifs <;> omega
  | gate =>
    obtain ⟨rfl | rfl | rfl, rfl⟩ | ⟨rfl, hfew, rfl⟩ := h
    · simp only [need]
      omega
    · simp only [need]
      omega
    · simp only [need]
      omega
    · simp only [need, maxReplans] at hfew ⊢
      split_ifs <;> omega
  | receipt =>
    obtain ⟨rfl, rfl⟩ := h
    simp only [need]
    omega
  | awaitHuman => exact h.elim
  | done => exact h.elim
  | denied => exact h.elim

/-- Two ways to go on that agree after every move of a node. -/
theorem afterNode_congr {go go' : Node → AgentRun → Task AgentRun} {n : Node}
    (h : ∀ m run', run'.state.requestMode = run.state.requestMode →
      Goes run.state.requestMode n run.state.replans m run'.state.replans →
        go m run' = go' m run') :
    (handler K n run).bind (afterNode go n) = (handler K n run).bind (afterNode go' n) := by
  refine Prog.bind_congr_returns (Prog.returns_mono ?_ (handler_goes n))
  rintro _ ⟨⟨r, run'⟩, rfl, hmode, hgoes⟩ _ heq
  cases heq
  cases r with
  | error e => rfl
  | ok next =>
    cases next with
    | node m => exact h m run' hmode (hgoes m rfl)
    | pause => rfl
    | stop => rfl

/-- **Budgets that are enough** are all the same. -/
theorem loop_enough (deadline : ℚ) {k k' : ℕ} {n : Node}
    (hk : need run.state.requestMode run.state.replans n ≤ k)
    (hk' : need run.state.requestMode run.state.replans n ≤ k') :
    loop K deadline k n run = loop K deadline k' n run := by
  induction k generalizing k' n run with
  | zero =>
    have hpos := need_pos run.state.requestMode run.state.replans n
    omega
  | succ k ih =>
    cases k' with
    | zero =>
      have hpos := need_pos run.state.requestMode run.state.replans n
      omega
    | succ k' =>
      have hnode : (handler K n run).bind (afterNode (loop K deadline k) n) =
          (handler K n run).bind (afterNode (loop K deadline k') n) := by
        refine afterNode_congr fun m run' hmode hgoes => ?_
        have hneed := need_of_goes hgoes
        rw [← hmode] at hneed hk hk'
        exact ih (by omega) (by omega)
      rw [loop, loop]
      congr 1
      funext now
      rw [afterClock, afterClock, hnode]

/-! ## The longest way -/

/-- Some answers lead through this many more nodes. -/
def CanEnter (K : Deps) : ℕ → Node → AgentRun → Prop
  | 0, _, _ => True
  | k + 1, n, run => ∃ m run', (handler K n).Can run (.ok (.node m)) run' ∧ CanEnter K k m run'

theorem save_can (node : Node) (status : Option TryTrust.Agent.Graph.RunStatus)
    (escalationId : Option String) (event : Fields) {f : Unit → Work Next} {next : Next}
    {run' : AgentRun} (h : (f ()).Can (savedRun node status escalationId run) (.ok next) run') :
    (save node status escalationId event >>= f).Can run (.ok next) run' :=
  Job.can_bind (y := savedRun node status escalationId run) (a := ())
    (Job.can_read (Job.can_call () (Job.can_call () rfl))) h

/-- No merchant is excluded, and the model is asked. -/
structure Open (run : AgentRun) : Prop where
  allowed : run.state.allowedMerchants = none
  asked : run.state.directReadOnlySearch = false

theorem perceive_can (run : AgentRun) : ∃ run', (nodePerceive K).Can run
    (.ok (.node .search)) run' ∧ Open run' ∧ pace run' = pace run := by
  let summary : Summary := ⟨0, "", "", [], []⟩
  let st := perceived K .null none summary run.state
  have hasked : st.directReadOnlySearch = false := by
    simp [st, perceived, onlyRappi]
  refine ⟨savedRun .perceive none none { run with state := { st with criteria := [] } },
    Job.can_read (Job.can_call (Json.null : Json) (Job.can_call (none : Option ScopeView)
      (Job.can_call summary (Job.can_edit (Job.can_read (Job.can_bind (a := ([] : Fields))
        (y := { run with state := st }) ?_ (Job.can_edit
          (save_can _ _ _ _ (Job.can_pure _))))))))), ⟨rfl, hasked⟩, rfl⟩
  exact Job.can_else (by simpa using hasked) (Job.can_call () (Job.can_lift
    ⟨.ok ([] : Fields), rfl⟩))

/-- An offer. -/
def plainOffer : Listing := ⟨"flight", "", "", 100, "USD", none, none, "", []⟩

/-- A merchant may answer anything. -/
theorem merchant_possible (q : Query) (m : String) (offers : List Listing) :
    (task (.merchantSearch m q)).attempt.Possible (.ok (.ok offers)) :=
  Prog.possible_attempt (⟨.ok offers, rfl⟩ : (task (.merchantSearch m q)).Possible (.ok offers))

theorem collect_none (q : Query) (ms : List String) :
    (collect q ms).Possible (.ok ([], [])) := by
  induction ms with
  | nil => rfl
  | cons m ms ih => exact Prog.possible_bind (merchant_possible q m []) (Prog.possible_bind ih rfl)

theorem collect_one (q : Query) (m : String) (ms : List String) :
    (collect q (m :: ms)).Possible (.ok ([normaliseOffer m plainOffer], [])) :=
  Prog.possible_bind (merchant_possible q m [plainOffer])
    (Prog.possible_bind (collect_none q ms) rfl)

/-- A single offer is found. -/
def Single (run : AgentRun) : Prop := ∃ o, run.state.offers = [o] ∧ o.offerId = "flight"

theorem search_can (hK : K.merchants ≠ []) (hsize : 0 < K.maxOffersInPrompt) (h : Open run) :
    ∃ run', (nodeSearch K).Can run (.ok (.node .propose)) run' ∧ Open run' ∧ Single run' ∧
      pace run' = pace run := by
  obtain ⟨m, ms, hmerchants⟩ := List.exists_cons_of_ne_nil hK
  have htargets : targets K run.state.allowedMerchants = m :: ms := by
    simp [targets, h.allowed, hmerchants]
  have hfind : (findOffers K run.state).Possible (.ok [normaliseOffer m plainOffer]) := by
    refine Prog.possible_bind (a := [normaliseOffer m plainOffer]) (Prog.possible_bind
      (a := ([normaliseOffer m plainOffer], [])) ?_ rfl) ?_
    · rw [htargets]
      exact collect_one _ m ms
    · rw [if_neg (List.cons_ne_nil _ _)]
      rfl
  have hclamp : ∃ o : Listing, clampOffers K [normaliseOffer m plainOffer] = [o] ∧
      o.offerId = "flight" := by
    rw [clampOffers, List.take_of_length_le hsize]
    exact ⟨_, rfl, rfl⟩
  obtain ⟨o, hoffers, hid⟩ := hclamp
  let run' := savedRun .search none none
    { run with state := searched K [normaliseOffer m plainOffer] run.state }
  have hnext : (.node (if run'.state.offers = [] then .denied else .propose) : Next) =
      .node .propose := by
    rw [if_neg]
    change clampOffers K _ ≠ []
    rw [hoffers]
    exact List.cons_ne_nil _ _
  refine ⟨run', Job.can_read (Job.can_call () (Job.can_bind (Job.can_lift hfind)
    (Job.can_edit (Job.can_read (save_can _ _ _ _ (Job.can_call () ?_)))))), ⟨h.allowed, h.asked⟩,
    ⟨o, hoffers, hid⟩, rfl⟩
  change (pure (Next.node (if run'.state.offers = [] then .denied else .propose)) :
    Work Next).Can run' _ _
  rw [hnext]
  exact Job.can_pure _

/-- The run has a proposal of the offer. -/
def Proposed (run : AgentRun) : Prop := ∃ p, run.state.proposal = some p

/-- A single offer is what is proposed when the model is away. -/
theorem fallback_single (L : Letters) (o : Listing) (request : String) :
    (fallback L o [] request).offerId = some o.offerId := by
  rw [fallback]
  split
  · next o' ho' =>
    rw [List.mem_singleton.1 (List.mem_of_find?_eq_some ho')]
    rfl
  · rfl

theorem propose_can (h : Open run) (hs : Single run) :
    ∃ run', (nodePropose K).Can run
      (.ok (.node (if run.state.requestMode = .search then .done else .gate))) run' ∧
      Open run' ∧ Proposed run' ∧ pace run' = pace run := by
  obtain ⟨o, hoffers, hid⟩ := hs
  let p : Proposal :=
    { fallback K.letters o [] run.state.request with concern := .str "model unavailable: " }
  have hp : p.offerId = some "flight" := by
    rw [← hid]
    exact fallback_single K.letters o run.state.request
  have hoffer : hasOffer p = true := by
    rw [hasOffer, hp]
    rfl
  have hchoose : (choose K run).Can run (.ok p) run := by
    refine Job.can_else (by simp [h.asked]) (Job.can_call () (Job.can_lift ?_))
    rw [propose, hoffers]
    exact Prog.possible_bind (⟨.ok (Completion.unavailable ""), rfl⟩ :
      (task (.complete run.state.request (" ".intercalate run.state.guidance)
        run.state.ontologyText run.state.memoryText [o])).Possible (.ok (.unavailable ""))) rfl
  have hnext : afterPropose run.state p =
      if run.state.requestMode = .search then .done else .gate := by
    simp [afterPropose, searchOnly, hoffer]
  refine ⟨savedRun .propose none none { run with state := proposed p run.state },
    Job.can_read (Job.can_bind hchoose (Job.can_edit (save_can _ _ _ _ ?_))), ⟨h.allowed, h.asked⟩,
    ⟨_, rfl⟩, rfl⟩
  rw [hnext]
  exact Job.can_pure _

/-- The kernel may answer anything. -/
theorem gate_can (hp : Proposed run) (r : Result) :
    ∃ run', nodeGate.Can run (.ok (afterGate run.state r)) run' ∧
      run'.state = gated r run.state := by
  obtain ⟨p, hp⟩ := hp
  refine ⟨{ savedRun .gate none none run with state := gated r run.state },
    save_can _ _ _ _ (Job.can_read ?_), rfl⟩
  have hoffer : proposedOffer (savedRun .gate none none run).state =
      .ok (p.offerId, (chosen run.state p).map (·.merchantId)) := by
    change proposedOffer run.state = _
    rw [proposedOffer, hp]
  rw [hoffer]
  exact Job.can_call r (Job.can_edit (Job.can_pure _))

theorem receipt_can {r : Result} (hr : run.state.result = some r) :
    ∃ run', nodeReceipt.Can run (.ok (.node .done)) run' := by
  refine ⟨savedRun .receipt none none run, Job.can_read ?_⟩
  rw [hr]
  exact save_can _ _ _ _ (Job.can_pure _)

/-- A refusal that may be tried again, and a capture. -/
def answerWith (status : PurchaseStatus) (code : Option String) : Result :=
  ⟨.purchase status, code, "", none, none, .obj [], .null⟩

theorem gate_captured (hp : Proposed run) : CanEnter K 2 .gate run := by
  obtain ⟨run', hgate, hstate⟩ := gate_can hp (answerWith .captured none)
  have hresult : run'.state.result = some (answerWith .captured none) := by
    rw [hstate, gated]
    split <;> rfl
  obtain ⟨run'', hreceipt⟩ := receipt_can hresult
  exact ⟨.receipt, run', hgate, .done, run'', hreceipt, trivial⟩

section Longest

variable (hK : K.merchants ≠ []) (hsize : 0 < K.maxOffersInPrompt)
include hK hsize

/-- From the search to the gate. -/
theorem search_to_gate (h : Open run) (hmode : run.state.requestMode = .purchase) {k : ℕ}
    (hgate : ∀ run', Open run' → Proposed run' → pace run' = pace run → CanEnter K k .gate run') :
    CanEnter K (k + 2) .search run := by
  obtain ⟨run', hsearch, hopen, hsingle, hpace⟩ := search_can hK hsize h
  obtain ⟨run'', hpropose, hopen', hproposed, hpace'⟩ := propose_can hopen hsingle
  have hmode' : run'.state.requestMode = .purchase := (congrArg Prod.fst hpace).trans hmode
  rw [hmode', if_neg (by simp)] at hpropose
  exact ⟨.propose, run', hsearch, .gate, run'', hpropose,
    hgate run'' hopen' hproposed (hpace'.trans hpace)⟩

/-- **Every attempt** may be refused so that there is another one, and the last one captured. -/
theorem gate_enters (h : Open run) (hp : Proposed run)
    (hmode : run.state.requestMode = .purchase) {d : ℕ}
    (hd : maxReplans - run.state.replans = d) : CanEnter K (2 + 3 * d) .gate run := by
  induction d generalizing run with
  | zero => exact gate_captured hp
  | succ d ih =>
    have hfew : run.state.replans < maxReplans := by omega
    obtain ⟨run', hgate, hstate⟩ := gate_can hp (answerWith .rejected (some "RAIL_ERROR"))
    have hgo : afterGate run.state (answerWith .rejected (some "RAIL_ERROR")) =
        .node .search := by
      simp [afterGate, answerWith, retryable, hfew]
    have hreplans := gated_replans hgo
    have hmode' : run'.state.requestMode = .purchase := by
      rw [hstate, gated_mode, hmode]
    have hopen : Open run' := by
      refine ⟨?_, ?_⟩
      · rw [hstate, gated, if_pos hgo]
        exact h.allowed
      · rw [hstate, gated, if_pos hgo]
        exact h.asked
    rw [hgo] at hgate
    refine ⟨.search, run', hgate, search_to_gate hK hsize hopen hmode' fun run'' ho hp' hpace => ?_⟩
    refine ih ho hp' ((congrArg Prod.fst hpace).trans hmode') ?_
    have hsame : run''.state.replans = run'.state.replans := congrArg Prod.snd hpace
    rw [hsame, hstate, hreplans]
    omega

/-- From the first node, as many nodes as `need` says. -/
theorem perceive_enters (run : AgentRun) :
    ∃ k, need run.state.requestMode run.state.replans .perceive = k + 1 ∧
      CanEnter K k .perceive run := by
  obtain ⟨run', hperceive, hopen, hpace⟩ := perceive_can (K := K) run
  have hmode : run'.state.requestMode = run.state.requestMode := congrArg Prod.fst hpace
  have hreplans : run'.state.replans = run.state.replans := congrArg Prod.snd hpace
  cases hm : run.state.requestMode with
  | purchase =>
    refine ⟨2 + 3 * (maxReplans - run.state.replans) + 2 + 1, ?_, .search, run', hperceive, ?_⟩
    · simp only [need, if_true]
      omega
    · refine search_to_gate hK hsize hopen (hmode.trans hm) fun run'' ho hp hpace' => ?_
      refine gate_enters hK hsize ho hp ((congrArg Prod.fst hpace').trans (hmode.trans hm)) ?_
      have hsame : run''.state.replans = run'.state.replans := congrArg Prod.snd hpace'
      rw [hsame, hreplans]
  | search =>
    obtain ⟨run'', hsearch, hopen', hsingle, hpace'⟩ := search_can hK hsize hopen
    obtain ⟨last, hpropose, -⟩ := propose_can hopen' hsingle
    have hmode' : run''.state.requestMode = .search :=
      (congrArg Prod.fst hpace').trans (hmode.trans hm)
    rw [hmode', if_pos rfl] at hpropose
    exact ⟨3, rfl, .search, run', hperceive, .propose, run'', hsearch, .done, last, hpropose,
      trivial⟩

end Longest

/-! ## Budgets that are too small -/

/-- A budget that ends on the way is not the same as a larger one. -/
theorem loop_differs (deadline : ℚ) {j k k' : ℕ} {n : Node} (h : CanEnter K j n run)
    (hk : k ≤ j) (hlt : k < k') : loop K deadline k n run ≠ loop K deadline k' n run := by
  induction k generalizing j k' n run with
  | zero =>
    cases k' with
    | zero => omega
    | succ k' =>
      intro heq
      have hnext : some (Op.updateRun run.runId n run.state .failed run.escalationId) =
          some .monotonic := congrArg Prog.next heq
      cases hnext
  | succ k ih =>
    obtain ⟨j, rfl⟩ : ∃ j', j = j' + 1 := ⟨j - 1, by omega⟩
    cases k' with
    | zero => omega
    | succ k' =>
      intro heq
      obtain ⟨m, run', hcan, henter⟩ := h
      rw [loop, loop] at heq
      have hclock : afterClock K deadline (loop K deadline k) n run (deadline - 1) =
          afterClock K deadline (loop K deadline k') n run (deadline - 1) :=
        Prog.bind_inj_possible heq ⟨.ok (deadline - 1), rfl⟩
      have hearly : ¬ deadline ≤ deadline - 1 := by linarith
      rw [afterClock, afterClock, if_neg hearly, if_neg hearly] at hclock
      exact ih henter (by omega) (by omega) (Prog.bind_inj_possible hclock hcan)

variable (K run) in
/-- A budget of `k` steps, or of more, has no effect. -/
def Idle (deadline : ℚ) (n : Node) (k : ℕ) : Prop :=
  ∀ k', k ≤ k' → loop K deadline k' n run = loop K deadline k n run

/-- **The step budget.** From the first node, whatever the state of the run: a budget has no effect,
that is, every larger one gives the same program, exactly when it is at least `need`. That is twelve
steps for a purchase that was not tried before, three fewer for each retry that is spent, and four
for a search. -/
theorem budget_exact (hK : K.merchants ≠ []) (hsize : 0 < K.maxOffersInPrompt) (deadline : ℚ)
    (run : AgentRun) (k : ℕ) :
    Idle K run deadline .perceive k ↔
      need run.state.requestMode run.state.replans .perceive ≤ k := by
  constructor
  · intro hidle
    obtain ⟨j, hneed, henter⟩ := perceive_enters hK hsize run
    by_contra hlt
    exact loop_differs deadline henter (by omega) (Nat.lt_succ_self k)
      (hidle (k + 1) (Nat.le_succ k)).symm
  · intro hneed k' hk'
    exact loop_enough deadline (hneed.trans hk') hneed

end Moves

/-! ## A request -/

/-- One merchant and the default quotas. -/
def oneMerchant : Deps where
  letters := ⟨fun c => c.isAlphanum || c = '_', Char.toLower⟩
  merchants := ["rappi"]
  model := "gpt-4.1-nano"
  maxOffersInPrompt := 12
  maxOfferTextChars := 400
  maxOntologyChars := 4000
  maxStepsPerRun := 24
  maxRunSeconds := 120

/-- A purchase that begins. -/
def flightRun : AgentRun := freshRun oneMerchant "run_1" "agt_1" 1 "mdt_1" "Buy me a flight"

/-- The default of twenty-four steps has no effect on it, and eleven steps do. -/
theorem budget_exact_default : Idle oneMerchant flightRun 120 .perceive 24 ∧
    ¬ Idle oneMerchant flightRun 120 .perceive 11 :=
  ⟨(budget_exact (by decide) (by decide) 120 flightRun 24).2 (by decide),
    fun h => absurd ((budget_exact (by decide) (by decide) 120 flightRun 11).1 h) (by decide)⟩

end TryTrust.Agent.Orchestrator
