import TryTrust.Compare
import TryTrust.JsonText
import TryTrust.Ranking
import TryTrust.Trustlib.Jose

/-!
# The dispatcher: which agent and mandate serve a request

`score_candidates` scores the pairs of an agent and a mandate and sorts them; `select_agent` takes
the first. The sort breaks ties toward the mandate that is oldest.

* `tokens`, `categoryKeywords`, `inferredCategory`: the words of a request;
* `Candidate`, `score`, `Scored`, `scoreCandidates`; `AgentRow`, `MandateRow`, `activePairs`;
  `Joined`, what the query returns, in any order; `candidateOf`, `selectAgent`;
* `mapM_eq_some_iff`; `scoreCandidates_eq`: the candidates with their scores, ranked;
* `Ranked`, `Routed`: what routing is for; `OneDate`: all that score highest are of one date;
  **`newest_first_iff`**: routing does it exactly when nothing raises and they are.
-/

namespace TryTrust.Agent.Router

open Ranking (Leads Newest rank)
open Trustlib (elements)

/-! ## Words -/

/-- `CATEGORY_KEYWORDS`. -/
def categoryKeywords : List (String × List String) :=
  [("flights", ["vuelo", "vuelos", "volar", "flight", "flights", "aerolinea", "aerolínea", "boleto",
      "tiquete", "avión", "avion"]),
    ("hotels", ["hotel", "hoteles", "noche", "noches", "alojamiento", "hospedaje"]),
    ("food", ["rappi", "pizza", "hamburguesa", "comida", "domicilio", "restaurante", "almuerzo",
      "cena", "desayuno", "food", "antojo"]),
    ("groceries", ["mercado", "supermercado", "papas", "pringles", "producto", "productos",
      "groceries", "market", "compras del mercado", "fruta", "cereal", "botella", "agua", "gaseosa",
      "jugo", "leche", "pan"]),
    ("retail", ["tienda", "comprar", "compra", "retail", "snack", "galleta", "bebida", "cigarro",
      "papeleria", "papelería"])]

/-- A blank, as `str.split()` takes them. -/
def isBlank (c : Char) : Bool :=
  (9 ≤ c.toNat && c.toNat ≤ 13) || (28 ≤ c.toNat && c.toNat ≤ 32) ||
    (8192 ≤ c.toNat && c.toNat ≤ 8202) ||
    [133, 160, 5760, 8232, 8233, 8239, 8287, 12288].contains c.toNat

/-- `set(text.lower().split())`; `lower` is the lower case of Unicode. -/
def tokens (lower : String → String) (text : String) : List String :=
  (((lower text).toList.splitOnP isBlank).filter (· ≠ [])).map String.ofList

/-- `set(words) & tokens`. -/
def hitsOf (words toks : List String) : List String := words.dedup.filter (· ∈ toks)

/-- `inferred_category`: the first category with the most hits. -/
def inferredCategory (lower : String → String) (text : String) : Option String :=
  (categoryKeywords.foldl (fun best e =>
    let hits := (hitsOf e.2 (tokens lower text)).length
    if best.2 < hits then (some e.1, hits) else best) (none, 0)).1

/-! ## Scores -/

/-- A pair of an agent and a mandate; `createdAt` is the text of its date. -/
structure Candidate where
  agentId : String
  agentName : String
  mandateJti : String
  scope : Fields
  currency : Json
  createdAt : String

/-- `text.removesuffix("-mcp")`. -/
def removeSuffix (text : String) : String :=
  if "-mcp".toList.isSuffixOf text.toList then
    String.ofList (text.toList.take (text.toList.length - 4))
  else text

/-- `CATEGORY_KEYWORDS.get(scope_category, ())`; `none` when it raises. -/
def keywordsOf : Json → Option (List String)
  | .str s => some ((categoryKeywords.lookup s).getD [])
  | .arr _ => none
  | .obj _ => none
  | _ => some []

/-- The reason for a category's words, if any of them is in the request. -/
def wordsReason (toks : List String) (scopeCategory : Json) : Option (List String) :=
  (keywordsOf scopeCategory).map fun words =>
    let hits := (hitsOf words toks).insertionSort fun a b => ¬ b < a
    if hits = [] then []
    else ["palabras " ++ (Json.arr (hits.map Json.str)).repr ++ " del rubro '" ++
      scopeCategory.text ++ "' en el pedido"]

/-- The loop body of `score_candidates`; `none` when it raises. -/
def score (lower : String → String) (criteria : Fields) (text : String) (c : Candidate) :
    Option (ℕ × List String) := do
  let categories ← elements (c.scope.getD "categories" (.arr []))
  let merchants ← elements (c.scope.getD "merchants" (.arr []))
  let toks := tokens lower text
  let category := criteria.get "category"
  let named : List String :=
    if category.truthy && categories.any category.pyEq then
      ["categoría '" ++ category.text ++ "' en el scope del mandato"] else []
  let words ← categories.mapM (wordsReason toks)
  let hits := (merchants.map fun m => removeSuffix m.text).filter fun m => m ≠ "" ∧ m ∈ toks
  let merchant : List String := hits.head?.toList.map fun m =>
    "merchant '" ++ m ++ "' nombrado en el pedido"
  some (3 * named.length + 2 * words.flatten.length + merchant.length,
    named ++ words.flatten ++ merchant)

/-- A candidate with its score. -/
structure Scored where
  candidate : Candidate
  score : ℕ
  reasons : List String

/-- A candidate, scored. -/
def scored (lower : String → String) (criteria : Fields) (text : String) (c : Candidate) :
    Option Scored :=
  (score lower criteria text c).map fun s => ⟨c, s.1, s.2⟩

/-- **`score_candidates`**; `none` when it raises. -/
def scoreCandidates (lower : String → String) (criteria : Fields) (text : String)
    (candidates : List Candidate) : Option (List Scored) :=
  (candidates.mapM (scored lower criteria text)).map
    (rank Scored.score fun x => x.candidate.createdAt)

/-! ## The tables -/

/-- A row of `agents`. -/
structure AgentRow where
  id : String
  name : String
  status : String

/-- A row of `mandates`. -/
structure MandateRow where
  jti : String
  agentId : String
  claims : Json
  status : String
  createdAt : String

/-- Both tables; `jti` is the primary key of `mandates`. -/
structure Registry where
  agents : List AgentRow
  mandates : List MandateRow
  jtis : (mandates.map (·.jti)).Nodup

/-- A row of the join. -/
abbrev Pair : Type := AgentRow × MandateRow

/-- The pairs of an active agent and an active mandate of it. -/
def activePairs (t : Registry) : List Pair :=
  (t.agents.product t.mandates).filter fun p =>
    p.2.agentId = p.1.id && p.1.status = "active" && p.2.status = "active"

/-- The rows of the query, in any order. -/
structure Joined (t : Registry) where
  rows : List Pair
  perm : rows.Perm (activePairs t)

/-- `_claims`; `none` when it raises, or what it returns has no `get`. -/
def claimsOf : Json → Option Fields
  | .obj claims => some claims
  | .str "" => some []
  | .str raw =>
    match JsonText.loads raw with
    | some (.obj claims) => some claims
    | _ => none
  | raw => if raw.truthy then none else some []

/-- The candidate of a row; `none` when its claims, or later its scope, raise. -/
def candidateOf (p : Pair) : Option Candidate := do
  let claims ← claimsOf p.2.claims
  let scope ← (claims.get "scope").fields
  some ⟨p.1.id, p.1.name, p.2.jti, scope, claims.get "currency", p.2.createdAt⟩

/-- What `select_agent` returns of a pair. -/
structure Selection where
  agentId : String
  agentName : String
  mandateJti : String
  currency : Json
  category : Json
  score : ℕ
  reason : String

/-- The selection of a scored candidate. -/
def Scored.selection (best : Scored) (category : Json) : Selection where
  agentId := best.candidate.agentId
  agentName := best.candidate.agentName
  mandateJti := best.candidate.mandateJti
  currency := best.candidate.currency
  category := category
  score := best.score
  reason := if best.reasons = [] then "único agente activo disponible"
    else "; ".intercalate best.reasons

/-- The criteria of a request; `parseRequest` is the model's, `none` when it raises. -/
def criteriaOf (lower : String → String) (parseRequest : String → Option Fields) (text : String) :
    Option Fields :=
  match inferredCategory lower text with
  | some category => some [("category", .str category)]
  | none => parseRequest text

/-- The first of a ranking, unless it scores nothing. -/
def firstOf (category : Json) (ranked : List Scored) : Option Selection :=
  ranked.head?.bind fun best => if best.score ≤ 0 then none else some (best.selection category)

/-- **`select_agent`** over the rows of its query; `none` when it raises. -/
def selectAgent (lower : String → String) (parseRequest : String → Option Fields)
    (rows : List Pair) (text : String) : Option (Option Selection) := do
  let candidates ← rows.mapM candidateOf
  if candidates.isEmpty then some none
  else
    let criteria ← criteriaOf lower parseRequest text
    let ranked ← scoreCandidates lower criteria text candidates
    some (firstOf (criteria.get "category") ranked)

/-! ## Every candidate is scored -/

section Lists

variable {α β : Type} {f : α → Option β} {l l' : List α} {ys : List β}

theorem mapM_eq_some_iff : l.mapM f = some ys ↔ l.map f = ys.map some := by
  induction l generalizing ys with
  | nil => cases ys <;> simp
  | cons x l ih =>
    rw [List.mapM_cons, List.map_cons]
    cases hx : f x with
    | none => cases ys <;> simp
    | some y =>
      cases hl : l.mapM f with
      | none =>
        cases ys with
        | nil => simp
        | cons z zs =>
          have hne : ¬ l.map f = zs.map some := fun h => by
            rw [ih.2 h] at hl
            cases hl
          simp [hne]
      | some zs =>
        have hzs := ih.1 hl
        rw [hzs]
        cases ys with
        | nil => simp
        | cons z us => simp [(Option.some_injective β).list_map.eq_iff]

/-- No item raises. -/
theorem exists_mapM_iff : (∃ ys, l.mapM f = some ys) ↔ ∀ x ∈ l, f x ≠ none := by
  constructor
  · rintro ⟨ys, hys⟩ x hx hnone
    have hmem : f x ∈ l.map f := List.mem_map_of_mem hx
    rw [mapM_eq_some_iff.1 hys, hnone] at hmem
    obtain ⟨y, -, hy⟩ := List.mem_map.1 hmem
    cases hy
  · intro h
    induction l with
    | nil => exact ⟨[], rfl⟩
    | cons x l ih =>
      obtain ⟨y, hy⟩ := Option.ne_none_iff_exists'.1 (h x List.mem_cons_self)
      obtain ⟨ys, hys⟩ := ih fun z hz => h z (List.mem_cons_of_mem _ hz)
      refine ⟨y :: ys, mapM_eq_some_iff.2 ?_⟩
      rw [List.map_cons, List.map_cons, hy, mapM_eq_some_iff.1 hys]

/-- In another order the same comes out, in another order. -/
theorem mapM_perm (h : l.Perm l') (hys : l.mapM f = some ys) :
    ∃ ys', l'.mapM f = some ys' ∧ ys.Perm ys' := by
  have hall := exists_mapM_iff.1 ⟨ys, hys⟩
  obtain ⟨ys', hys'⟩ := exists_mapM_iff.2 fun x hx => hall x (h.mem_iff.2 hx)
  refine ⟨ys', hys', ?_⟩
  have hmap := h.map f
  rw [mapM_eq_some_iff.1 hys, mapM_eq_some_iff.1 hys'] at hmap
  exact (List.map_perm_map_iff (Option.some_injective β)).1 hmap

end Lists

section Scoring

variable {lower : String → String} {criteria : Fields} {text : String}
  {candidates : List Candidate} {xs ranked : List Scored}

/-- The score of a candidate. -/
def points (lower : String → String) (criteria : Fields) (text : String) (c : Candidate) : ℕ :=
  ((score lower criteria text c).map Prod.fst).getD 0

theorem scored_eq_some {c : Candidate} {x : Scored} (h : scored lower criteria text c = some x) :
    x.candidate = c ∧ x.score = points lower criteria text c := by
  obtain ⟨s, hs, rfl⟩ := Option.map_eq_some_iff.1 h
  rw [points, hs]
  exact ⟨rfl, rfl⟩

/-- What is scored are the candidates, with their points. -/
theorem candidates_of_scored (h : candidates.mapM (scored lower criteria text) = some xs) :
    xs.map Scored.candidate = candidates ∧
      ∀ x ∈ xs, x.score = points lower criteria text x.candidate := by
  have heq := mapM_eq_some_iff.1 h
  clear h
  induction candidates generalizing xs with
  | nil => cases xs <;> simp_all
  | cons c candidates ih =>
    cases xs with
    | nil => simp at heq
    | cons x xs =>
      rw [List.map_cons, List.map_cons, List.cons.injEq] at heq
      obtain ⟨hcandidate, hscore⟩ := scored_eq_some heq.1
      obtain ⟨hrest, hscores⟩ := ih heq.2
      refine ⟨by rw [List.map_cons, hcandidate, hrest], fun y hy => ?_⟩
      rcases List.mem_cons.1 hy with rfl | hmem
      · rw [hcandidate, hscore]
      · exact hscores y hmem

/-- The candidates that score highest are those of the scored ones that lead. -/
theorem leads_iff (h : candidates.mapM (scored lower criteria text) = some xs) (c : Candidate) :
    Leads (points lower criteria text) candidates c ↔
      ∃ x, Leads Scored.score xs x ∧ x.candidate = c := by
  obtain ⟨hmap, hscore⟩ := candidates_of_scored h
  constructor
  · rintro ⟨hmem, hmax⟩
    rw [← hmap] at hmem
    obtain ⟨x, hx, rfl⟩ := List.mem_map.1 hmem
    refine ⟨x, ⟨hx, fun y hy => ?_⟩, rfl⟩
    rw [hscore x hx, hscore y hy]
    exact hmax _ (by rw [← hmap]; exact List.mem_map_of_mem hy)
  · rintro ⟨x, ⟨hx, hmax⟩, rfl⟩
    refine ⟨by rw [← hmap]; exact List.mem_map_of_mem hx, fun c hc => ?_⟩
    rw [← hmap] at hc
    obtain ⟨y, hy, rfl⟩ := List.mem_map.1 hc
    rw [← hscore x hx, ← hscore y hy]
    exact hmax y hy

/-- **All candidates that score highest** are of one date. -/
def OneDate (lower : String → String) (criteria : Fields) (text : String)
    (candidates : List Candidate) : Prop :=
  ∀ c c', Leads (points lower criteria text) candidates c →
    Leads (points lower criteria text) candidates c' → c.createdAt = c'.createdAt

/-- The first of the ranking is newest when they are, and only then. -/
theorem head_newest_iff (h : candidates.mapM (scored lower criteria text) = some xs) :
    (∀ x, (rank Scored.score (fun x => x.candidate.createdAt) xs).head? = some x →
        Newest Scored.score (fun x => x.candidate.createdAt) xs x) ↔
      OneDate lower criteria text candidates := by
  rw [Ranking.head_newest_iff]
  constructor
  · intro hone c c' hc hc'
    obtain ⟨x, hx, rfl⟩ := (leads_iff h c).1 hc
    obtain ⟨x', hx', rfl⟩ := (leads_iff h c').1 hc'
    exact hone x x' hx hx'
  · intro hone x x' hx hx'
    exact hone _ _ ((leads_iff h _).2 ⟨x, hx, rfl⟩) ((leads_iff h _).2 ⟨x', hx', rfl⟩)

/-- **What `score_candidates` is for**: the candidates with their scores, in another order, and the
newest of those that score highest first. -/
def Ranked (lower : String → String) (criteria : Fields) (text : String)
    (candidates : List Candidate) : Prop :=
  ∃ ranked xs, scoreCandidates lower criteria text candidates = some ranked ∧
    candidates.mapM (scored lower criteria text) = some xs ∧ ranked.Perm xs ∧
    ∀ x, ranked.head? = some x →
      Newest Scored.score (fun x => x.candidate.createdAt) ranked x

theorem ranked_iff : Ranked lower criteria text candidates ↔
    (∀ c ∈ candidates, score lower criteria text c ≠ none) ∧
      OneDate lower criteria text candidates := by
  have hraise : (∀ c ∈ candidates, score lower criteria text c ≠ none) ↔
      ∃ xs, candidates.mapM (scored lower criteria text) = some xs := by
    rw [exists_mapM_iff]
    refine forall₂_congr fun c _ => ?_
    rw [scored, ne_eq, ne_eq, Option.map_eq_none_iff]
  rw [hraise]
  constructor
  · rintro ⟨ranked, xs, hranked, hxs, -, hfirst⟩
    rw [scoreCandidates, hxs] at hranked
    obtain rfl := Option.some.inj hranked
    refine ⟨⟨xs, hxs⟩, (head_newest_iff hxs).1 fun x hx => ?_⟩
    exact (hfirst x hx).of_perm (Ranking.rank_perm _ _ xs)
  · rintro ⟨⟨xs, hxs⟩, hone⟩
    have hperm := Ranking.rank_perm Scored.score (fun x => x.candidate.createdAt) xs
    refine ⟨_, xs, by rw [scoreCandidates, hxs]; rfl, hxs, hperm, fun x hx => ?_⟩
    exact ((head_newest_iff hxs).2 hone x hx).of_perm hperm.symm

/-- Nothing is selected when nothing scores. -/
theorem firstOf_eq_none {category : Json}
    (h : candidates.mapM (scored lower criteria text) = some xs) :
    firstOf category (rank Scored.score (fun x => x.candidate.createdAt) xs) = none ↔
      ∀ c ∈ candidates, points lower criteria text c = 0 := by
  obtain ⟨hmap, hscore⟩ := candidates_of_scored h
  by_cases hxs : xs = []
  · subst hxs
    rw [← hmap]
    simp [firstOf, rank]
  · obtain ⟨best, hbest⟩ := Ranking.exists_head Scored.score (fun x => x.candidate.createdAt) hxs
    have hleads := (Ranking.head_leads hbest).1
    rw [firstOf, hbest, Option.bind_some, ← hmap, List.forall_mem_map]
    constructor
    · intro hnone x hx
      have hzero : best.score ≤ 0 := by
        by_contra hpos
        rw [if_neg hpos] at hnone
        cases hnone
      have hle := hleads.2 x hx
      rw [← hscore x hx]
      omega
    · intro hzero
      rw [hscore best hleads.1, hzero best hleads.1, if_pos (le_refl 0)]

/-- What is selected scores highest, and none that does is older. -/
theorem firstOf_eq_some {category : Json} {s : Selection}
    (h : candidates.mapM (scored lower criteria text) = some xs)
    (hs : firstOf category (rank Scored.score (fun x => x.candidate.createdAt) xs) = some s) :
    ∃ best : Scored, s = best.selection category ∧
      best.score = points lower criteria text best.candidate ∧
      Leads (points lower criteria text) candidates best.candidate ∧
      ∀ c, Leads (points lower criteria text) candidates c →
        best.candidate.createdAt ≤ c.createdAt := by
  obtain ⟨best, hbest, hsel⟩ := Option.bind_eq_some_iff.1 hs
  obtain ⟨hleads, holdest⟩ := Ranking.head_leads hbest
  split_ifs at hsel with hscore
  refine ⟨best, (Option.some.inj hsel).symm, (candidates_of_scored h).2 best hleads.1,
    (leads_iff h _).2 ⟨best, hleads, rfl⟩, fun c hc => ?_⟩
  obtain ⟨x, hx, rfl⟩ := (leads_iff h c).1 hc
  exact holdest x hx

end Scoring

/-! ## Routing -/

section Routing

variable {lower : String → String} {parseRequest : String → Option Fields} {t : Registry}
  {text : String} {rows : List Pair} {candidates : List Candidate}

/-- The selection is of a candidate. -/
structure Selection.Of (s : Selection) (c : Candidate) : Prop where
  agentId : s.agentId = c.agentId
  agentName : s.agentName = c.agentName
  mandateJti : s.mandateJti = c.mandateJti
  currency : s.currency = c.currency

/-- What a call of `select_agent` answers of its candidates: nothing where nothing scores, else the
newest of those that score highest. -/
structure Answers (lower : String → String) (criteria : Fields) (text : String)
    (candidates : List Candidate) (result : Option Selection) : Prop where
  none_iff : result = none ↔ ∀ c ∈ candidates, points lower criteria text c = 0
  newest : ∀ s, result = some s → ∃ c, s.Of c ∧ s.score = points lower criteria text c ∧
    Newest (points lower criteria text) Candidate.createdAt candidates c

/-- **What `select_agent` is for**, of all pairs of an active agent and an active mandate. -/
def Routed (lower : String → String) (parseRequest : String → Option Fields) (t : Registry)
    (rows : List Pair) (text : String) : Prop :=
  ∃ result, selectAgent lower parseRequest rows text = some result ∧
    (activePairs t = [] → result = none) ∧
    (activePairs t ≠ [] → ∃ candidates criteria,
      (activePairs t).mapM candidateOf = some candidates ∧
      criteriaOf lower parseRequest text = some criteria ∧
      Answers lower criteria text candidates result)

/-- **When it does that**: there is no pair, or nothing raises, and nothing scores or all that score
highest are of one date. -/
def Routable (lower : String → String) (parseRequest : String → Option Fields) (t : Registry)
    (text : String) : Prop :=
  activePairs t = [] ∨ ∃ candidates criteria,
    (activePairs t).mapM candidateOf = some candidates ∧
    criteriaOf lower parseRequest text = some criteria ∧
    (∀ c ∈ candidates, score lower criteria text c ≠ none) ∧
    ((∀ c ∈ candidates, points lower criteria text c = 0) ∨
      OneDate lower criteria text candidates)

/-- A call over some rows. -/
theorem selectAgent_eq_some {result : Option Selection} (hrows : rows ≠ [])
    (hcandidates : rows.mapM candidateOf = some candidates) :
    selectAgent lower parseRequest rows text = some result ↔ ∃ criteria xs,
      criteriaOf lower parseRequest text = some criteria ∧
      candidates.mapM (scored lower criteria text) = some xs ∧
      result = firstOf (criteria.get "category")
        (rank Scored.score (fun x => x.candidate.createdAt) xs) := by
  have hne : candidates.isEmpty = false := by
    have hlength := congrArg List.length (mapM_eq_some_iff.1 hcandidates)
    rw [List.length_map, List.length_map] at hlength
    rw [List.isEmpty_eq_false_iff]
    rintro rfl
    exact hrows (List.eq_nil_of_length_eq_zero hlength)
  unfold selectAgent
  rw [hcandidates]
  dsimp only [Option.bind_eq_bind, Option.bind_some]
  rw [hne, if_neg Bool.false_ne_true]
  cases hcriteria : criteriaOf lower parseRequest text with
  | none => simp
  | some criteria =>
    cases hxs : candidates.mapM (scored lower criteria text) with
    | none => simp [scoreCandidates, hxs]
    | some xs => simp [scoreCandidates, hxs, eq_comm]

/-- Candidates of one `jti` are of one date. -/
theorem createdAt_of_jti (h : (activePairs t).mapM candidateOf = some candidates)
    {c c' : Candidate} (hc : c ∈ candidates) (hc' : c' ∈ candidates)
    (hjti : c.mandateJti = c'.mandateJti) : c.createdAt = c'.createdAt := by
  have hrow : ∀ c ∈ candidates, ∃ m ∈ t.mandates, c.mandateJti = m.jti ∧
      c.createdAt = m.createdAt := by
    intro c hc
    have hmem : some c ∈ (activePairs t).map candidateOf := by
      rw [mapM_eq_some_iff.1 h]
      exact List.mem_map_of_mem hc
    obtain ⟨p, hp, hcand⟩ := List.mem_map.1 hmem
    obtain ⟨claims, -, hcand⟩ := Option.bind_eq_some_iff.1 hcand
    obtain ⟨scope, -, hcand⟩ := Option.bind_eq_some_iff.1 hcand
    obtain rfl := Option.some.inj hcand
    exact ⟨p.2, (List.pair_mem_product.1 (List.mem_of_mem_filter hp)).2, rfl, rfl⟩
  obtain ⟨m, hm, hmjti, hmdate⟩ := hrow c hc
  obtain ⟨m', hm', hmjti', hmdate'⟩ := hrow c' hc'
  have heq : m = m' := List.inj_on_of_nodup_map t.jtis hm hm'
    (hmjti.symm.trans (hjti.trans hmjti'))
  rw [hmdate, hmdate', heq]

/-- All candidates of one date, in another order. -/
theorem OneDate.of_perm {criteria : Fields} {candidates' : List Candidate}
    (hperm : candidates.Perm candidates') (h : OneDate lower criteria text candidates) :
    OneDate lower criteria text candidates' :=
  fun c c' hc hc' => h c c' (hc.of_perm hperm.symm) (hc'.of_perm hperm.symm)

/-- Where something scores, what is selected is newest only if all that score highest are. -/
theorem oneDate_of_answers {criteria : Fields} {category : Json} {candidates' : List Candidate}
    {xs : List Scored} (h : (activePairs t).mapM candidateOf = some candidates)
    (hperm : candidates.Perm candidates')
    (hxs : candidates'.mapM (scored lower criteria text) = some xs)
    (hanswers : Answers lower criteria text candidates
      (firstOf category (rank Scored.score (fun x => x.candidate.createdAt) xs)))
    (hscore : ¬ ∀ c ∈ candidates, points lower criteria text c = 0) :
    OneDate lower criteria text candidates := by
  obtain ⟨s, hs⟩ := Option.ne_none_iff_exists'.1 (mt hanswers.none_iff.1 hscore)
  obtain ⟨best, rfl, -, hleads, holdest⟩ := firstOf_eq_some hxs hs
  obtain ⟨c, hof, -, hnewest⟩ := hanswers.newest _ hs
  have hbest := hleads.of_perm hperm.symm
  -- the selection names one mandate, so the oldest and the newest are of one date
  have hdate := createdAt_of_jti h hbest.1 hnewest.1.1 hof.mandateJti
  have hone : ∀ x, Leads (points lower criteria text) candidates x →
      x.createdAt = c.createdAt := by
    intro x hx
    refine le_antisymm (hnewest.2 x hx) ?_
    rw [← hdate]
    exact holdest x (hx.of_perm hperm)
  exact fun x x' hx hx' => (hone x hx).trans (hone x' hx').symm

/-- The rows of the query, as candidates. -/
theorem Joined.exists_candidates (q : Joined t)
    (h : (activePairs t).mapM candidateOf = some candidates) :
    ∃ candidates', q.rows.mapM candidateOf = some candidates' ∧ candidates.Perm candidates' :=
  mapM_perm q.perm.symm h

theorem Joined.rows_ne (q : Joined t) (h : activePairs t ≠ []) : q.rows ≠ [] := by
  intro hnil
  have hperm := q.perm
  rw [hnil] at hperm
  exact h hperm.symm.eq_nil

theorem Joined.rows_nil (q : Joined t) (h : activePairs t = []) : q.rows = [] := by
  have hperm := q.perm
  rw [h] at hperm
  exact hperm.eq_nil

theorem routable_of_routed {q : Joined t} (h : Routed lower parseRequest t q.rows text) :
    Routable lower parseRequest t text := by
  obtain ⟨result, hresult, -, hpairs⟩ := h
  by_cases hnil : activePairs t = []
  · exact .inl hnil
  · obtain ⟨candidates, criteria, hcandidates, hcriteria, hanswers⟩ := hpairs hnil
    obtain ⟨candidates', hcandidates', hperm⟩ := q.exists_candidates hcandidates
    obtain ⟨criteria', xs, hcriteria', hxs, rfl⟩ :=
      (selectAgent_eq_some (q.rows_ne hnil) hcandidates').1 hresult
    obtain rfl : criteria = criteria' := Option.some.inj (hcriteria.symm.trans hcriteria')
    refine .inr ⟨candidates, criteria, hcandidates, hcriteria, fun c hc hnone => ?_, ?_⟩
    · refine exists_mapM_iff.1 ⟨xs, hxs⟩ c (hperm.mem_iff.1 hc) ?_
      rw [scored, hnone, Option.map_none]
    · by_cases hscore : ∀ c ∈ candidates, points lower criteria text c = 0
      · exact .inl hscore
      · exact .inr (oneDate_of_answers hcandidates hperm hxs hanswers hscore)

theorem routed_of_routable {q : Joined t} (h : Routable lower parseRequest t text) :
    Routed lower parseRequest t q.rows text := by
  by_cases hnil : activePairs t = []
  · refine ⟨none, ?_, fun _ => rfl, fun hne => absurd hnil hne⟩
    rw [q.rows_nil hnil]
    rfl
  obtain ⟨candidates, criteria, hcandidates, hcriteria, hraise, hscore⟩ :=
    h.resolve_left hnil
  obtain ⟨candidates', hcandidates', hperm⟩ := q.exists_candidates hcandidates
  obtain ⟨xs, hxs⟩ : ∃ xs, candidates'.mapM (scored lower criteria text) = some xs := by
    refine exists_mapM_iff.2 fun c hc hnone => hraise c (hperm.mem_iff.2 hc) ?_
    rwa [scored, Option.map_eq_none_iff] at hnone
  have hresult := (selectAgent_eq_some (q.rows_ne hnil) hcandidates').2
    ⟨criteria, xs, hcriteria, hxs, rfl⟩
  have hnone : firstOf (criteria.get "category")
      (rank Scored.score (fun x => x.candidate.createdAt) xs) = none ↔
        ∀ c ∈ candidates, points lower criteria text c = 0 := by
    rw [firstOf_eq_none hxs]
    exact forall_congr' fun c => by rw [hperm.mem_iff]
  refine ⟨_, hresult, fun hempty => absurd hempty hnil, fun _ =>
    ⟨candidates, criteria, hcandidates, hcriteria, hnone, fun s hs => ?_⟩⟩
  obtain ⟨best, rfl, hpoints, hleads, -⟩ := firstOf_eq_some hxs hs
  have hbest := hleads.of_perm hperm.symm
  refine ⟨best.candidate, ⟨rfl, rfl, rfl, rfl⟩, hpoints, hbest, fun c hc => ?_⟩
  rcases hscore with hzero | hone
  · rw [hnone.2 hzero] at hs
    cases hs
  · exact (hone c best.candidate hc hbest).le

/-- **Routing prefers the newest** of what scores highest exactly when nothing raises and all that
score highest are of one date, or, to select an agent, nothing scores or there is no pair. -/
theorem newest_first_iff (lower : String → String) (parseRequest : String → Option Fields)
    (text : String) :
    (∀ criteria candidates, Ranked lower criteria text candidates ↔
      (∀ c ∈ candidates, score lower criteria text c ≠ none) ∧
        OneDate lower criteria text candidates) ∧
    ∀ (t : Registry) (q : Joined t), Routed lower parseRequest t q.rows text ↔
      Routable lower parseRequest t text :=
  ⟨fun _ _ => ranked_iff, fun _ _ => ⟨routable_of_routed, routed_of_routable⟩⟩

/-! ## Two mandates of one scope -/

/-- A mandate for flights, signed at a date. -/
def flights (jti date : String) : Candidate where
  agentId := "agt_a"
  agentName := "flights_marta"
  mandateJti := jti
  scope := [("categories", .arr [.str "flights"])]
  currency := .str "USD"
  createdAt := date

/-- **Of two mandates that score the same** the older one comes first. -/
theorem older_first : ¬ Ranked id [("category", .str "flights")] "un vuelo"
    [flights "mdt_old" "2026-08-30T12:00:00+00:00",
      flights "mdt_new" "2026-08-31T12:00:00+00:00"] := by
  intro h
  have hdate := (ranked_iff.1 h).2 (flights "mdt_old" "2026-08-30T12:00:00+00:00")
    (flights "mdt_new" "2026-08-31T12:00:00+00:00") ⟨by simp, by decide +kernel⟩
    ⟨by simp, by decide +kernel⟩
  revert hdate
  decide

end Routing

end TryTrust.Agent.Router
