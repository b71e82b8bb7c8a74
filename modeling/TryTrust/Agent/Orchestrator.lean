import TryTrust.Agent.Resume
import TryTrust.Conc.Jobs

/-!
# The orchestrator of the agent

The graph that turns a request into a purchase: every node works on the run that was loaded, saves
it and names the next node; a loop drives them, with a budget of steps and of time.

* `requestMode`: an explicit search is read-only; `RunState`, `AgentRun`, `Listing`, `Proposal`;
* `Op`, `Reply`, `sem`: the statements over `agent_runs`, and the calls that leave the process;
* `save`, the nodes, `handler`, `loop`, **`runUntilPause`**, `start`, `resume`, `addGuidance`.
-/

namespace TryTrust.Agent.Orchestrator

open Conc
open TryTrust.Agent.Graph (RunStatus)

/-! ## The request -/

/-- What a request asks for. -/
inductive Mode where
  | purchase
  | search
  deriving DecidableEq, Repr

/-- What `re` knows about letters: `\w`, and comparison without case. -/
structure Letters where
  word : Char → Bool
  fold : Char → Char

/-- The text begins with the needle, with no blocked letter on either side. -/
def Letters.here (L : Letters) (blocked : Char → Bool) (needle : List Char) (prev : Option Char)
    (text : List Char) : Bool :=
  (prev.all fun c => !blocked c) && (needle.map L.fold).isPrefixOf (text.map L.fold) &&
    ((text.drop needle.length).head?.all fun c => !blocked c)

/-- The text holds the needle somewhere, with no blocked letter on either side. -/
def Letters.mentions (L : Letters) (blocked : Char → Bool) (needle : List Char) :
    Option Char → List Char → Bool
  | prev, [] => L.here blocked needle prev []
  | prev, c :: cs => L.here blocked needle prev (c :: cs) || L.mentions blocked needle (some c) cs

/-- `_PURCHASE_WORDS`. -/
def purchaseWords : List String :=
  ["compra", "comprar", "comprame", "cómprame", "pide", "pideme", "pídeme", "ordena", "buy",
    "purchase", "order"]

/-- `_SEARCH_WORDS`. -/
def searchWords : List String :=
  ["busca", "buscar", "buscame", "búscame", "encuentra", "encontrar", "muestra", "muestrame",
    "muéstrame", "compara", "comparar", "cotiza", "opciones", "search", "find", "show", "compare"]

/-- `pattern.search(text)` for the words between `\b`. -/
def hasWord (L : Letters) (words : List String) (text : String) : Bool :=
  words.any fun w => L.mentions L.word w.toList none text.toList

/-- `request_mode`. -/
def requestMode (L : Letters) (text : String) : Mode :=
  if hasWord L purchaseWords text then .purchase
  else if hasWord L searchWords text then .search
  else .purchase

/-! ## Runs -/

/-- The nodes. -/
inductive Node where
  | perceive
  | search
  | propose
  | gate
  | awaitHuman
  | receipt
  | done
  | denied
  deriving DecidableEq, Repr

/-- What a node names: the next one, or `__pause__` or `__stop__`. -/
inductive Next where
  | node (n : Node)
  | pause
  | stop
  deriving DecidableEq, Repr

/-- An offer as a merchant's port gives it. -/
structure Listing where
  offerId : String
  merchantId : String
  title : String
  /-- In cents. -/
  price : ℤ
  currency : String
  destination : Option String
  departDate : Option String
  description : String
  images : List String
  deriving DecidableEq

/-- `state["proposal"]`. -/
structure Proposal where
  offerId : Option String
  why : String
  concern : Json
  source : String
  images : List String
  merchantId : Option String
  title : Option String
  price : Option String
  currency : Option String

/-- The statuses of a result. -/
inductive ResultStatus where
  | purchase (s : PurchaseStatus)
  | escalated
  | proposed
  deriving DecidableEq

/-- `state["result"]`: what the kernel answers, or what the graph writes itself. -/
structure Result where
  status : ResultStatus
  reasonCode : Option String
  detail : String
  purchaseId : Option String
  escalationId : Option String
  diff : Json
  receipt : Json

/-- What `memory.summarise` gives. -/
structure Summary where
  purchasesMade : ℕ
  totalSpent : String
  typicalPrice : String
  frequentDestinations : List String
  recentRefusals : List (String × ℕ)

/-- The state of a run. -/
structure RunState where
  request : String
  requestMode : Mode
  guidance : List String
  replans : ℕ
  allowedMerchants : Option (List String)
  currency : String
  directReadOnlySearch : Bool
  ontologyText : String
  memoryText : String
  criteria : Fields
  offers : List Listing
  searchError : Option String
  proposal : Option Proposal
  result : Option Result

/-- A row of `agent_runs`. -/
structure AgentRun where
  runId : String
  agentId : String
  agentVersion : ℕ
  mandateJti : String
  node : Node
  state : RunState
  status : RunStatus
  escalationId : Option String

/-- An entry of the audit log. -/
structure RunEvent where
  type : String
  runId : String
  agentId : String
  agentVersion : Option ℕ
  mandateJti : Option String
  node : Option Node
  status : Option RunStatus
  payload : Fields

/-- An agent, as `start` reads it. -/
structure AgentView where
  active : Bool
  currentVersion : ℕ

/-- The claims of a mandate, as `perceive` reads them. -/
structure ScopeView where
  merchants : Option (List String)
  currency : Option String

/-- An escalation and a purchase, as `resume` reads them. -/
structure EscalationView where
  pending : Bool
  purchaseId : String
  decision : Option String

structure PurchaseView where
  status : PurchaseStatus
  reasonCode : Option String
  receipt : Json

/-- The search terms. -/
structure Query where
  origin : Json
  destination : Json
  date : Json
  category : Json
  query : String

/-- What `_json(complete(…))` gives: a value, or one of the exceptions that `propose` expects. -/
inductive Completion where
  | parsed (value : Json)
  | unavailable (text : String)

/-! ## Statements and calls -/

/-- An exception. -/
inductive GraphErr where
  | limitExceeded (code detail : String)
  | other (text : String)

/-- The statements over `agent_runs`, and the calls that leave the process. -/
inductive Op where
  | getAgent (agentId : String)
  | guardRunStart (agentId : String)
  | insertRun (run : AgentRun)
  | selectRun (runId : String)
  | updateRun (runId : String) (node : Node) (state : RunState) (status : RunStatus)
      (escalationId : Option String)
  | updateRunning (runId : String)
  | updateState (runId : String) (state : RunState)
  | append (e : RunEvent)
  | getVersion (agentId : String) (version : ℕ)
  | selectClaims (mandateJti : String)
  | summarise (mandateJti : String)
  | guardLlmCall (agentId mandateJti : String)
  | guardMerchantCall (agentId mandateJti : String)
  | parseRequest (text : String)
  | merchantSearch (merchantId : String) (q : Query)
  | complete (request guidance ontologyText memoryText : String) (offers : List Listing)
  | submitPurchase (runId : String) (offerId : Option String) (mandateJti : String)
      (merchantId : Option String)
  | selectEscalation (id : Option String)
  | selectPurchase (id : String)
  | monotonic

/-- The answers. -/
def Reply : Op → Type
  | .getAgent _ => AgentView
  | .selectRun _ => Option AgentRun
  | .getVersion _ _ => Json
  | .selectClaims _ => Option ScopeView
  | .summarise _ => Summary
  | .parseRequest _ => Fields
  | .merchantSearch _ _ => List Listing
  | .complete _ _ _ _ _ => Completion
  | .submitPurchase _ _ _ _ => Result
  | .selectEscalation _ => Option EscalationView
  | .selectPurchase _ => Option PurchaseView
  | .monotonic => ℚ
  | _ => Unit

/-- What does not change while runs go on. -/
structure Deps where
  letters : Letters
  /-- `MERCHANTS`, in registry order. -/
  merchants : List String
  /-- `LLM_MODEL`. -/
  model : String
  maxOffersInPrompt : ℕ
  maxOfferTextChars : ℕ
  maxOntologyChars : ℕ
  maxStepsPerRun : ℕ
  maxRunSeconds : ℚ

/-- `MAX_REPLANS`. -/
def maxReplans : ℕ := 2

/-- `RETRYABLE`. -/
def retryable : List String := ["AMOUNT_MISMATCH", "RAIL_ERROR"]

/-- A program over these calls, and one that works on a run. -/
abbrev Task (α : Type) : Type := Prog Op Reply GraphErr α

abbrev Work (α : Type) : Type := Job Op Reply GraphErr AgentRun α

abbrev task (op : Op) : Task (Reply op) := Prog.perform op

abbrev ask (op : Op) : Work (Reply op) := Job.lift (task op)

/-- A change of `run["state"]`. -/
def setState (f : RunState → RunState) : Work Unit :=
  Job.edit fun run => { run with state := f run.state }

/-- A text or `None`. -/
def jsonText : Option String → Json
  | some text => .str text
  | none => .null

/-! ## Loading and saving -/

/-- `_load`. -/
def load (runId : String) : Task AgentRun := do
  match ← task (.selectRun runId) with
  | some run => pure run
  | none => .raise (.other ("no such run: " ++ runId))

/-- The event of `_save`. -/
def entered (run : AgentRun) (node : Node) (status : RunStatus) (payload : Fields) : RunEvent where
  type := "agent.node.entered"
  runId := run.runId
  agentId := run.agentId
  agentVersion := some run.agentVersion
  mandateJti := some run.mandateJti
  node := some node
  status := some status
  payload := payload

/-- `_save`. -/
def save (node : Node) (status : Option RunStatus) (escalationId : Option String)
    (event : Fields) : Work Unit := do
  let run ← Job.read
  ask (.updateRun run.runId node run.state (status.getD run.status)
    (escalationId <|> run.escalationId))
  ask (.append (entered run node (status.getD run.status) event))
  Job.edit fun run =>
    { run with
      node := node
      status := status.getD run.status
      escalationId := escalationId <|> run.escalationId }

/-! ## Texts for the model -/

mutual

/-- `walk` of `ontology.render`: the lines of a value at an indentation. -/
def walk (indent : ℕ) : Json → List String
  | .obj fields => walkFields indent fields
  | .arr items => walkItems indent items
  | value => ["".pushn ' ' (2 * indent) ++ value.text]

/-- The lines of a dictionary. -/
def walkFields (indent : ℕ) : List (String × Json) → List String
  | [] => []
  | (key, value) :: fields =>
    (match value with
      | .obj _ | .arr _ =>
        ("".pushn ' ' (2 * indent) ++ key ++ ":") :: walk (indent + 1) value
      | _ => ["".pushn ' ' (2 * indent) ++ key ++ ": " ++ value.text]) ++
      walkFields indent fields

/-- The lines of a list; a nested value is not indented further. -/
def walkItems (indent : ℕ) : List Json → List String
  | [] => []
  | item :: items =>
    (match item with
      | .obj _ | .arr _ => walk indent item
      | _ => ["".pushn ' ' (2 * indent) ++ "- " ++ item.text]) ++
      walkItems indent items

end

/-- `ontology.render`. -/
def renderOntology (ontology : Json) : String := "\n".intercalate (walk 0 ontology)

/-- `memory.render`. -/
def renderSummary (s : Summary) : String :=
  if s.purchasesMade = 0 then "no completed purchases yet under this mandate"
  else
    "\n".intercalate
      (["purchases so far: " ++ toString s.purchasesMade, "total spent: " ++ s.totalSpent,
          "typical price paid: " ++ s.typicalPrice] ++
        (if s.frequentDestinations = [] then []
          else ["usual destinations: " ++ ", ".intercalate s.frequentDestinations]) ++
        (if s.recentRefusals = [] then []
          else ["recent refusals: " ++
            ", ".intercalate (s.recentRefusals.map fun r => r.1 ++ "x" ++ toString r.2)]))

/-- `clamp_text`. -/
def clampText (K : Deps) (text : String) : String := clip K.maxOntologyChars text

/-- `clamp_offers`. -/
def clampOffers (K : Deps) (offers : List Listing) : List Listing :=
  (offers.take K.maxOffersInPrompt).map fun o =>
    { o with
      title := clip K.maxOfferTextChars o.title
      description := clip K.maxOfferTextChars o.description }

/-! ## `perceive` -/

/-- The criteria of a direct search. -/
def directCriteria : Fields :=
  [("origin", .null), ("destination", .null), ("date", .null), ("category", .null),
    ("max_price", .null), ("notes", .str "direct read-only merchant search")]

/-- `set(allowed or ()) == {"rappi"}`. -/
def onlyRappi (allowed : Option (List String)) : Bool :=
  (allowed.getD []) ≠ [] ∧ (allowed.getD []).all (· = "rappi")

/-- What `parse_request` is given. -/
def requestText (st : RunState) : String :=
  st.request ++ (if st.guidance = [] then "" else " " ++ " ".intercalate st.guidance)

/-- What `perceive` writes into the state before it parses the request. -/
def perceived (K : Deps) (ontology : Json) (claims : Option ScopeView) (summary : Summary)
    (st : RunState) : RunState :=
  { st with
    allowedMerchants := claims.bind (·.merchants)
    currency := (claims.bind (·.currency)).getD "USD"
    directReadOnlySearch := st.requestMode = .search && onlyRappi (claims.bind (·.merchants))
    ontologyText := clampText K (renderOntology ontology)
    memoryText := renderSummary summary }

/-- The criteria: fixed for a direct search, else those of the model. -/
def readCriteria (run : AgentRun) : Work Fields :=
  if run.state.directReadOnlySearch then pure directCriteria
  else do
    ask (.guardLlmCall run.agentId run.mandateJti)
    ask (.parseRequest (requestText run.state))

/-- `node_perceive`. -/
def nodePerceive (K : Deps) : Work Next := do
  let run ← Job.read
  let ontology ← ask (.getVersion run.agentId run.agentVersion)
  let claims ← ask (.selectClaims run.mandateJti)
  let summary ← ask (.summarise run.mandateJti)
  setState (perceived K ontology claims summary)
  let run ← Job.read
  let criteria ← readCriteria run
  setState fun st => { st with criteria := criteria }
  save .perceive none none
    [("criteria", .obj criteria),
      ("memory", .obj [("purchases_made", .num summary.purchasesMade 0),
        ("total_spent", .str summary.totalSpent)])]
  pure (.node .search)

/-! ## `search` -/

/-- `normalise_offer`: the port names itself as the merchant. -/
def normaliseOffer (merchantId : String) (o : Listing) : Listing :=
  { o with merchantId := merchantId }

/-- The targets of `search_all`. -/
def targets (K : Deps) (allowed : Option (List String)) : List String :=
  K.merchants.filter fun m => (allowed.getD []).isEmpty || (allowed.getD []).contains m

/-- The answers of the merchants, in registry order, and those that failed. -/
def collect (q : Query) : List String → Task (List Listing × List (String × GraphErr))
  | [] => pure ([], [])
  | m :: ms => do
    let r ← (task (.merchantSearch m q)).attempt
    let rest ← collect q ms
    pure (match r with
      | .ok offers => (offers.map (normaliseOffer m) ++ rest.1, rest.2)
      | .error e => (rest.1, (m, e) :: rest.2))

/-- `str(exc)`. -/
def GraphErr.text : GraphErr → String
  | .limitExceeded code detail => code ++ ": " ++ detail
  | .other text => text

/-- The log of a merchant that failed. -/
def unreachable (m : String) (e : GraphErr) : RunEvent where
  type := "merchant.unreachable"
  runId := ""
  agentId := ""
  agentVersion := none
  mandateJti := none
  node := none
  status := none
  payload := [("merchant_id", .str m), ("error", .str (clip 300 e.text))]

/-- The failures are logged. -/
def logFailures : List (String × GraphErr) → Task Unit
  | [] => pure ()
  | (m, e) :: rest => do
    task (.append (unreachable m e))
    logFailures rest

/-- `search_all`. -/
def searchAll (K : Deps) (allowed : Option (List String)) (q : Query) : Task (List Listing) := do
  let found ← collect q (targets K allowed)
  logFailures found.2
  pure found.1

/-- The event of `search`. -/
def offerSeen (run : AgentRun) : RunEvent where
  type := "offer.seen"
  runId := run.runId
  agentId := run.agentId
  agentVersion := none
  mandateJti := some run.mandateJti
  node := none
  status := none
  payload := [("count", .num run.state.offers.length 0),
    ("cheapest", jsonText (run.state.offers.head?.map fun o => fmt o.price))]

/-- The terms of the first search. -/
def firstQuery (st : RunState) : Query where
  origin := st.criteria.get "origin"
  destination := st.criteria.get "destination"
  date := st.criteria.get "date"
  category := st.criteria.get "category"
  query := st.request

/-- The terms of the broad search. -/
def broadQuery (st : RunState) : Query :=
  { firstQuery st with origin := .null, destination := .null, date := .null }

/-- The first search, and the broad one when it finds nothing. -/
def findOffers (K : Deps) (st : RunState) : Task (List Listing) := do
  let offers ← searchAll K st.allowedMerchants (firstQuery st)
  if offers = [] then searchAll K st.allowedMerchants (broadQuery st) else pure offers

/-- Why nothing was found. -/
def searchErrorOf (K : Deps) (st : RunState) : String :=
  if ((st.allowedMerchants.getD []).filter fun m => !K.merchants.contains m) = [] then "no_offers"
  else "merchant_offline"

/-- What `search` writes into the state. -/
def searched (K : Deps) (offers : List Listing) (st : RunState) : RunState :=
  { st with
    offers := clampOffers K offers
    searchError := if clampOffers K offers = [] then some (searchErrorOf K st) else st.searchError }

/-- `node_search`. -/
def nodeSearch (K : Deps) : Work Next := do
  let run ← Job.read
  ask (.guardMerchantCall run.agentId run.mandateJti)
  let offers ← Job.lift (findOffers K run.state)
  setState (searched K offers)
  let run ← Job.read
  save .search none none [("offers_found", .num run.state.offers.length 0)]
  ask (.append (offerSeen run))
  pure (.node (if run.state.offers = [] then .denied else .propose))

/-! ## `propose` -/

/-- A proposal before the merchant's data is added. -/
def bare (offerId : Option String) (why : String) (concern : Json) (source : String) :
    Proposal where
  offerId := offerId
  why := why
  concern := concern
  source := source
  images := []
  merchantId := none
  title := none
  price := none
  currency := none

/-- The first of the cheapest offers. -/
def cheapest : Listing → List Listing → Listing
  | best, [] => best
  | best, o :: rest => cheapest (if o.price < best.price then o else best) rest

/-- The offer that the request names. -/
def requested (L : Letters) (request : String) (offers : List Listing) : Option Listing :=
  offers.find? fun o =>
    L.mentions (fun c => L.word c || c = '-') o.offerId.toList none request.toList

/-- `_propose_fallback`, for a list that is not empty. -/
def fallback (L : Letters) (first : Listing) (rest : List Listing) (request : String) : Proposal :=
  match requested L request (first :: rest) with
  | some o => bare (some o.offerId) "the requested offer" .null "deterministic"
  | none =>
    let o := cheapest first rest
    bare (some o.offerId) ("cheapest match at " ++ fmt o.price) .null "deterministic"

/-- `propose_deterministic`, for a list that is not empty. -/
def proposeDeterministic (L : Letters) (first : Listing) (rest : List Listing) : Proposal :=
  let p := fallback L first rest ""
  match (first :: rest).find? fun o => some o.offerId = p.offerId with
  | some o =>
    { p with
      why := "Es el resultado coincidente de menor precio: " ++ fmt o.price ++ " " ++
        o.currency ++ "." }
  | none => p

/-- The offer that the model names. -/
def named (answer : Fields) (offers : List Listing) : Option Listing :=
  match answer.lookup "offer_id" with
  | some (.str id) => offers.find? fun o => o.offerId = id
  | _ => none

/-- What `propose` makes of an answer of the model. -/
def readAnswer (K : Deps) (first : Listing) (rest : List Listing) (request : String) :
    Completion → Except GraphErr Proposal
  | .parsed (.obj answer) =>
    match named answer (first :: rest) with
    | some o =>
      .ok (bare (some o.offerId) (clip 280 (Fields.getD answer "why" (.str "")).text)
        (Fields.get answer "concern") K.model)
    | none =>
      .ok { fallback K.letters first rest request with
        concern := .str "model chose an unknown offer" }
  | .parsed _ => .error (.other "object has no attribute 'get'")
  | .unavailable text =>
    .ok { fallback K.letters first rest request with
      concern := .str ("model unavailable: " ++ text) }

/-- `llm.propose`. -/
def propose (K : Deps) (st : RunState) : Task Proposal :=
  match st.offers with
  | [] => pure (bare none "nothing in the catalog matches" .null "deterministic")
  | first :: rest => do
    let answer ← task (.complete st.request (" ".intercalate st.guidance) st.ontologyText
      st.memoryText (first :: rest))
    match readAnswer K first rest st.request answer with
    | .ok p => pure p
    | .error e => .raise e

/-- The chosen offer. -/
def chosen (st : RunState) (p : Proposal) : Option Listing :=
  st.offers.find? fun o => some o.offerId = p.offerId

/-- The merchant's data ride along with the proposal. -/
def withListing (p : Proposal) (o : Listing) : Proposal :=
  { p with
    images := o.images
    merchantId := some o.merchantId
    title := some o.title
    price := some (fmt o.price)
    currency := some o.currency }

/-- The proposal as it is stored. -/
def stored (st : RunState) (p : Proposal) : Proposal :=
  match chosen st p with
  | some o => withListing p o
  | none => p

/-- `bool(proposal.get("offer_id"))`. -/
def hasOffer (p : Proposal) : Bool := p.offerId.any fun id => id ≠ ""

/-- The result of a read-only search. -/
def proposedResult : Result where
  status := .proposed
  reasonCode := none
  detail := "read-only catalogue search; no purchase was submitted"
  purchaseId := none
  escalationId := none
  diff := .obj []
  receipt := .null

/-- The search is over when it has a proposal. -/
def searchOnly (st : RunState) (p : Proposal) : Bool := st.requestMode = .search && hasOffer p

/-- What `propose` writes into the state. -/
def proposed (p : Proposal) (st : RunState) : RunState :=
  { st with
    proposal := some (stored st p)
    result := if searchOnly st p then some proposedResult else st.result }

/-- A search that only reads, over an offer list that is empty: `min` raises. -/
def proposeDirect (K : Deps) (st : RunState) : Task Proposal :=
  match st.offers with
  | [] => .raise (.other "min() iterable argument is empty")
  | first :: rest => pure (proposeDeterministic K.letters first rest)

/-- A mode as a text. -/
def Mode.text : Mode → String
  | .purchase => "purchase"
  | .search => "search"

/-- The proposal: the cheapest offer for a direct search, else that of the model. -/
def choose (K : Deps) (run : AgentRun) : Work Proposal :=
  if run.state.directReadOnlySearch then Job.lift (proposeDirect K run.state)
  else do
    ask (.guardLlmCall run.agentId run.mandateJti)
    Job.lift (propose K run.state)

/-- Where the graph goes with a proposal. -/
def afterPropose (st : RunState) (p : Proposal) : Node :=
  if searchOnly st p then .done else if hasOffer p then .gate else .denied

/-- `node_propose`. -/
def nodePropose (K : Deps) : Work Next := do
  let run ← Job.read
  let p ← choose K run
  setState (proposed p)
  save .propose none none
    [("offer_id", jsonText p.offerId), ("source", .str p.source), ("concern", p.concern),
      ("request_mode", .str run.state.requestMode.text)]
  pure (.node (afterPropose run.state p))

/-! ## `gate` and after -/

/-- The note for the next proposal. -/
def note (code : String) : String :=
  "the previous choice failed with " ++ code ++ "; pick a different offer"

/-- Where the graph goes after the kernel's answer. -/
def afterGate (st : RunState) (r : Result) : Next :=
  if r.status = .purchase .captured then .node .receipt
  else if r.status = .escalated then .node .awaitHuman
  else if (r.reasonCode.any (· ∈ retryable)) && st.replans < maxReplans then .node .search
  else .node .denied

/-- What `gate` writes into the state. -/
def gated (r : Result) (st : RunState) : RunState :=
  if afterGate st r = .node .search then
    { st with
      result := some r
      replans := st.replans + 1
      guidance := st.guidance ++ [note (r.reasonCode.getD "None")] }
  else { st with result := some r }

/-- The offer of the proposal and its merchant; a key that is missing raises. -/
def proposedOffer (st : RunState) : Except GraphErr (Option String × Option String) :=
  match st.proposal with
  | none => .error (.other "'proposal'")
  | some p => .ok (p.offerId, (chosen st p).map (·.merchantId))

/-- `node_gate`. -/
def nodeGate : Work Next := do
  save .gate none none []
  let run ← Job.read
  match proposedOffer run.state with
  | .error e => Job.raise e
  | .ok (offerId, merchantId) =>
    let r ← ask (.submitPurchase run.runId offerId run.mandateJti merchantId)
    setState (gated r)
    pure (afterGate run.state r)

/-- `node_await_human`. -/
def nodeAwaitHuman : Work Next := do
  let run ← Job.read
  match run.state.result with
  | none => Job.raise (.other "'result'")
  | some r =>
    match r.escalationId with
    | none => Job.raise (.other "'escalation_id'")
    | some id =>
      save .awaitHuman (some .awaitingHuman) (some id)
        [("escalation_id", .str id), ("reason_code", jsonText r.reasonCode), ("diff", r.diff)]
      pure .pause

/-- `node_receipt`. -/
def nodeReceipt : Work Next := do
  let run ← Job.read
  match run.state.result with
  | none => Job.raise (.other "'result'")
  | some r =>
    save .receipt none none [("receipt", r.receipt)]
    pure (.node .done)

/-- `node_done`. -/
def nodeDone : Work Next := do
  save .done (some .done) none []
  pure .stop

/-- `node_denied`. -/
def nodeDenied : Work Next := do
  let run ← Job.read
  save .denied (some .denied) none
    [("reason_code", jsonText (run.state.result.bind (·.reasonCode))),
      ("detail", .str ((run.state.result.map (·.detail)).getD ""))]
  pure .stop

/-- `NODES`. -/
def handler (K : Deps) : Node → Work Next
  | .perceive => nodePerceive K
  | .search => nodeSearch K
  | .propose => nodePropose K
  | .gate => nodeGate
  | .awaitHuman => nodeAwaitHuman
  | .receipt => nodeReceipt
  | .done => nodeDone
  | .denied => nodeDenied

/-! ## The loop -/

/-- A job whose exception leaves the call. -/
def leaveWith {α : Type} : Except GraphErr α × AgentRun → Task α
  | (.ok a, _) => pure a
  | (.error e, _) => .raise e

/-- The run stops at a node with a status. -/
def stopAt (node : Node) (status : RunStatus) (event : Fields) (run : AgentRun) :
    Task AgentRun := do
  (save node (some status) none event run).bind leaveWith
  load run.runId

/-- What the loop does with an exception of a node. -/
def stopFor (node : Node) (run : AgentRun) : GraphErr → Task AgentRun
  | .limitExceeded code detail =>
    stopAt node .denied
      [("reason_code", .str code), ("detail", .str detail), ("guardrail", .bool true)] run
  | .other text => stopAt node .failed [("error", .str text)] run

/-- After a node: `go` is what the loop does at the next one. -/
def afterNode (go : Node → AgentRun → Task AgentRun) (node : Node) :
    Except GraphErr Next × AgentRun → Task AgentRun
  | (.ok (.node next), run) => go next run
  | (.ok .pause, run) => load run.runId
  | (.ok .stop, run) => load run.runId
  | (.error e, run) => stopFor node run e

/-- A step of the loop after it has read the clock. -/
def afterClock (K : Deps) (deadline : ℚ) (go : Node → AgentRun → Task AgentRun) (node : Node)
    (run : AgentRun) (now : ℚ) : Task AgentRun :=
  if deadline ≤ now then
    stopAt node .failed
      [("error", .str "run exceeded its wall clock"), ("guardrail", .bool true)] run
  else (handler K node run).bind (afterNode go node)

/-- The loop of `run_until_pause`. -/
def loop (K : Deps) (deadline : ℚ) : ℕ → Node → AgentRun → Task AgentRun
  | 0, node, run => stopAt node .failed [("error", .str "step budget exhausted")] run
  | steps + 1, node, run =>
    (task .monotonic).bind (afterClock K deadline (loop K deadline steps) node run)

/-- The status says that the run is over. -/
def finished : RunStatus → Bool
  | .done | .denied | .failed => true
  | _ => false

/-- Where `run_until_pause` enters. -/
def entry (run : AgentRun) : Node := if run.status = .running then run.node else .perceive

/-- **`run_until_pause`**. -/
def runUntilPause (K : Deps) (runId : String) (maxSteps : Option ℕ) (maxSeconds : Option ℚ) :
    Task AgentRun := do
  let now : ℚ ← task .monotonic
  let run ← load runId
  if finished run.status then pure run
  else
    loop K (now + maxSeconds.getD K.maxRunSeconds) (maxSteps.getD K.maxStepsPerRun) (entry run) run

/-! ## The other entries -/

/-- The state of a run that begins. -/
def freshState (K : Deps) (request : String) : RunState where
  request := request
  requestMode := requestMode K.letters request
  guidance := []
  replans := 0
  allowedMerchants := none
  currency := "USD"
  directReadOnlySearch := false
  ontologyText := ""
  memoryText := ""
  criteria := []
  offers := []
  searchError := none
  proposal := none
  result := none

/-- A run that begins. -/
def freshRun (K : Deps) (runId agentId : String) (version : ℕ) (mandateJti request : String) :
    AgentRun where
  runId := runId
  agentId := agentId
  agentVersion := version
  mandateJti := mandateJti
  node := .perceive
  state := freshState K request
  status := .running
  escalationId := none

/-- The event of `start`. -/
def started (run : AgentRun) : RunEvent where
  type := "agent.run.started"
  runId := run.runId
  agentId := run.agentId
  agentVersion := some run.agentVersion
  mandateJti := some run.mandateJti
  node := none
  status := none
  payload := [("request", .str run.state.request)]

/-- `start`; `runId` is the fresh id. -/
def start (K : Deps) (runId agentId mandateJti request : String) : Task AgentRun := do
  let agent ← task (.getAgent agentId)
  if !agent.active then .raise (.other ("agent " ++ agentId ++ " is not active"))
  else do
    task (.guardRunStart agentId)
    let run := freshRun K runId agentId agent.currentVersion mandateJti request
    task (.insertRun run)
    task (.append (started run))
    load runId

/-- What `resume` writes into the state. -/
def settled (purchaseId : String) (p : PurchaseView) (st : RunState) : RunState :=
  { st with
    result := some
      { status := .purchase p.status
        reasonCode := p.reasonCode
        detail := ""
        purchaseId := some purchaseId
        escalationId := none
        diff := .obj []
        receipt := p.receipt } }

/-- The node that `resume` enters. -/
def resumeNode (p : PurchaseView) : Node := if p.status = .captured then .receipt else .denied

/-- The part of `resume` after its reads. -/
def resumeWith (K : Deps) (esc : EscalationView) (p : PurchaseView) : Work Unit := do
  setState (settled esc.purchaseId p)
  Job.edit fun run => { run with status := .running }
  let run ← Job.read
  ask (.updateRunning run.runId)
  save .gate none none [("decision", jsonText esc.decision)]
  let _ ← handler K (resumeNode p)
  pure ()

/-- `resume`. -/
def resume (K : Deps) (runId : String) : Task AgentRun := do
  let run ← load runId
  if run.status ≠ .awaitingHuman then pure run
  else
    match ← task (.selectEscalation run.escalationId) with
    | none => pure run
    | some esc =>
      if esc.pending then pure run
      else
        match ← task (.selectPurchase esc.purchaseId) with
        | none => .raise (.other "'NoneType' object is not subscriptable")
        | some p => do
          (resumeWith K esc p run).bind leaveWith
          load runId

/-- The event of `add_guidance`. -/
def guided (run : AgentRun) (text : String) : RunEvent where
  type := "agent.guidance.received"
  runId := run.runId
  agentId := run.agentId
  agentVersion := none
  mandateJti := some run.mandateJti
  node := none
  status := none
  payload := [("guidance", .str text)]

/-- `add_guidance`. -/
def addGuidance (runId text : String) : Task AgentRun := do
  let run ← load runId
  task (.updateState runId
    { run.state with guidance := run.state.guidance ++ [text], replans := 0 })
  task (.append (guided run text))
  load runId

end TryTrust.Agent.Orchestrator
