import AgentConsole.Bridge.Domain
import AgentConsole.Bridge.MapperSteps
import AgentConsole.Bridge.Patches

/-! # Pending questions and approvals

`projection` reads the questions and the approvals that wait for the user from a conversation
document: from its own two lists, or, where these are missing or empty, from the requests of the
server.  The mapper keeps their kinds by native id, and tells what is new and what is gone.

The times of creation are left out. -/

namespace AgentConsole.Bridge

open AgentConsole.Lib

structure QuestionOption where
  optionId : String
  label : String
  deriving DecidableEq, Repr

structure PendingQuestion where
  questionId : String
  title : String
  description : String
  options : List QuestionOption
  allowMultiple : Bool
  allowFreeText : Bool
  turn : Option TurnId
  valid : Bool
  deriving DecidableEq, Repr

structure ApprovalDecision where
  decisionId : String
  label : String
  deriving DecidableEq, Repr

structure PendingApproval where
  approvalId : String
  riskDescription : String
  requestedAction : String
  decisions : List ApprovalDecision
  scope : Option String
  turn : Option TurnId
  valid : Bool
  deriving DecidableEq, Repr

/-- A question of a request, with an id of its own. -/
structure RequestQuestion where
  questionId : String
  header : String
  question : String
  allowFreeText : Bool
  optionLabels : List String
  deriving DecidableEq, Repr

/-- An open request for answers. -/
structure Projection.RequestsQuestion where
  requestId : String
  turn : Option TurnId
  questions : List RequestQuestion
  deriving DecidableEq, Repr

/-! ## Reading the document -/

namespace Json

def asBool? : Json → Option Bool
  | .bool value => some value
  | _ => none

/-- `text_from`: a text, an object with one, or a list of these objects. -/
def textFrom : Option Json → String
  | some (.str text) => text
  | some (.obj fields) => ((fields.lookup "text").bind asStr?).getD ""
  | some (.arr parts) => String.join (parts.filterMap fun part => (part.get? "text").bind asStr?)
  | _ => ""

def strAt (value : Json) (key : String) : String := ((value.get? key).bind asStr?).getD ""

def boolAt (value : Json) (key : String) (default : Bool) : Bool :=
  ((value.get? key).bind asBool?).getD default

def listAt (value : Json) (key : String) : List Json := ((value.get? key).bind asArray?).getD []

def turnAt (value : Json) : Option TurnId :=
  ((value.get? "turnId").bind asStr?).map fun id => ⟨id, false⟩

/-- An id that is no text counts as empty. -/
def idAt (value : Json) (key other : String) : String :=
  (((value.get? key).or (value.get? other)).bind asStr?).getD ""

def requestQuestion (question : Json) : RequestQuestion where
  questionId := question.strAt "id"
  header := question.strAt "header"
  question := question.strAt "question"
  allowFreeText := question.boolAt "isOther" false
  optionLabels := (question.listAt "options").filterMap fun option =>
    (option.get? "label").bind asStr?

/-- `extract_requests_questions_detail` for one request: it is open, and asks something. -/
def requestsQuestion? (request : Json) : Option Projection.RequestsQuestion :=
  if (request.get? "method").bind asStr? ≠ some "item/tool/requestUserInput" then none
  else if (request.get? "completed").bind asBool? = some true then none
  else (request.get? "params").bind fun params =>
    let questions := (params.listAt "questions").map requestQuestion
    if questions.isEmpty then none
    else some {
      requestId := request.strAt "id"
      turn := params.turnAt
      questions := questions }

/-- `extract_requests_questions_detail` -/
def extractRequestsQuestionsDetail (state : Json) : List Projection.RequestsQuestion :=
  (state.listAt "requests").filterMap requestsQuestion?

/-- `extract_requests_questions`: all questions of a request are one card, with the options of
the first. -/
def extractRequestsQuestions (state : Json) : List PendingQuestion :=
  state.extractRequestsQuestionsDetail.map fun request =>
    let first := request.questions.head?
    { questionId := request.requestId
      title := (first.map (·.header)).getD ""
      description := " / ".intercalate (request.questions.map (·.question))
      options := (first.map fun q => q.optionLabels.map fun label => ⟨label, label⟩).getD []
      allowMultiple := false
      allowFreeText := (first.map (·.allowFreeText)).getD false
      turn := request.turn
      valid := true }

def pendingQuestion (question : Json) : PendingQuestion where
  questionId := question.idAt "id" "questionId"
  title := textFrom (question.get? "title")
  description := textFrom (question.get? "description")
  options := (question.listAt "options").filterMap fun option =>
    ((option.get? "id").bind asStr?).map fun id => ⟨id, textFrom (option.get? "label")⟩
  allowMultiple := question.boolAt "allowMultiple" false
  allowFreeText := question.boolAt "allowFreeText" false
  turn := question.turnAt
  valid := question.boolAt "valid" true

/-- `extract_questions` -/
def extractQuestions (state : Json) : List PendingQuestion :=
  let parsed := (state.listAt "pendingQuestions").map pendingQuestion
  if parsed.isEmpty then state.extractRequestsQuestions else parsed

def approvalMethods : List String :=
  ["item/commandExecution/requestApproval", "item/fileChange/requestApproval"]

/-- `extract_requests_approvals` for one request. -/
def requestsApproval? (request : Json) : Option PendingApproval :=
  match (request.get? "method").bind asStr? with
  | none => none
  | some method =>
    if method ∉ approvalMethods then none
    else if (request.get? "completed").bind asBool? = some true then none
    else
      let params := (request.get? "params").getD .null
      some {
        approvalId := request.strAt "id"
        riskDescription := ""
        requestedAction := textFrom ((params.get? "command").or (params.get? "action"))
        decisions := []
        scope := none
        turn := params.turnAt
        valid := true }

/-- `extract_requests_approvals` -/
def extractRequestsApprovals (state : Json) : List PendingApproval :=
  (state.listAt "requests").filterMap requestsApproval?

def pendingApproval (approval : Json) : PendingApproval where
  approvalId := approval.idAt "id" "approvalId"
  riskDescription := textFrom (approval.get? "riskDescription")
  requestedAction := textFrom ((approval.get? "requestedAction").or (approval.get? "action"))
  decisions := (approval.listAt "decisions").filterMap fun decision =>
    ((decision.get? "id").bind asStr?).map fun id => ⟨id, textFrom (decision.get? "label")⟩
  scope := (approval.get? "scope").bind asStr?
  turn := approval.turnAt
  valid := approval.boolAt "valid" true

/-- `extract_approvals` -/
def extractApprovals (state : Json) : List PendingApproval :=
  let parsed := (state.listAt "pendingApprovals").map pendingApproval
  if parsed.isEmpty then state.extractRequestsApprovals else parsed

end Json

/-! ## The mapper -/

inductive PendingAttentionKind where
  | userQuestion | riskApproval
  deriving DecidableEq, Repr

inductive PendingAttention where
  | question (question : PendingQuestion)
  | approval (approval : PendingApproval)
  deriving DecidableEq, Repr

namespace PendingAttention

def kind : PendingAttention → PendingAttentionKind
  | .question _ => .userQuestion
  | .approval _ => .riskApproval

def nativeId : PendingAttention → String
  | .question q => q.questionId
  | .approval a => a.approvalId

def pair (attention : PendingAttention) : PendingAttentionKind × String :=
  (attention.kind, attention.nativeId)

end PendingAttention

/-- The questions and approvals of `runtime_snapshot`. -/
def pendingAttentions (state : Json) : List PendingAttention :=
  state.extractQuestions.map .question ++ state.extractApprovals.map .approval

/-- The events of `DomainEvent` that tell outputs and attentions. -/
inductive DomainEvent where
  | output (event : OutputEvent)
  | pendingAttentionAdded (attention : PendingAttention)
  | pendingAttentionRemoved (kind : PendingAttentionKind) (nativeId : String)
      (turn : Option TurnId)
  deriving DecidableEq, Repr

abbrev Attentions := FiniteMap String PendingAttentionKind

/-- The attentions of a document: an approval takes the id of a question. -/
def nextAttentions (state : Json) : Attentions :=
  let questions : Attentions :=
    state.extractQuestions.foldl (fun next q => next.insert q.questionId .userQuestion) ∅
  state.extractApprovals.foldl (fun next a => next.insert a.approvalId .riskApproval) questions

def findAttention (state : Json) (id : String) : PendingAttentionKind → Option PendingAttention
  | .userQuestion => (state.extractQuestions.find? (·.questionId = id)).map .question
  | .riskApproval => (state.extractApprovals.find? (·.approvalId = id)).map .approval

/-- `diff_attentions`: the ids are compared, not the kinds. -/
def diffAttentions (attentions : Attentions) (state : Json) : Attentions × List DomainEvent :=
  let next := nextAttentions state
  let removed := ((inKeyOrder attentions).filter fun entry => !next.contains entry.1).map
    fun entry => DomainEvent.pendingAttentionRemoved entry.2 entry.1 none
  let added := (inKeyOrder next).filterMap fun entry =>
    if attentions.contains entry.1 then none
    else (findAttention state entry.1 entry.2).map .pendingAttentionAdded
  (next, removed ++ added)

/-- The mapper with its attentions. -/
abbrev AttentionMapper := FullMapper PendingAttentionKind Unit

namespace AttentionMapper

variable (m : AttentionMapper)

/-- `apply_snapshot` -/
def applySnapshot (now revision : Nat) (state : Json) : AttentionMapper × List DomainEvent :=
  let (mapper, outputs) := m.mapper.applySnapshot now revision state
  let (attentions, events) := diffAttentions m.attentions state
  ({ m with mapper := mapper, attentions := attentions }, outputs.map .output ++ events)

/-- A step of the mapper, with the events it emits. -/
def perform : SessionMapper.Input → AttentionMapper × List DomainEvent
  | .snapshot now revision state => applySnapshot m now revision state
  | .patches now baseRevision revision patches =>
    let apply := fun (m : AttentionMapper) revision state => applySnapshot m now revision state
    match m.applyPatches apply baseRevision revision patches with
    | (m, .applied events) => (m, events)
    | (m, .resyncNeeded) => (m, [])
  | .flush now =>
    let (mapper, outputs) := m.mapper.flushDueOutputs now
    ({ m with mapper := mapper }, outputs.map .output)

/-- `pending_attention_count` of `session_summary`, a `u32`. -/
def pendingAttentionCount : Nat := m.attentions.toList.length % 2 ^ 32

/-- The pending entries of the last runtime snapshot. -/
def lastPending : List PendingAttention := (m.mapper.state.map pendingAttentions).getD []

end AttentionMapper

/-! ## Folding the events -/

abbrev AttentionPairs := Finset (PendingAttentionKind × String)

/-- An event in the set of what is pending. -/
def receive (shown : AttentionPairs) : DomainEvent → AttentionPairs
  | .output _ => shown
  | .pendingAttentionAdded attention => insert attention.pair shown
  | .pendingAttentionRemoved kind nativeId _ => shown.erase (kind, nativeId)

/-- A mapper, and its events folded from the start. -/
structure Followed where
  mapper : AttentionMapper := ⟨{}, ∅, ()⟩
  shown : AttentionPairs := ∅

namespace Followed

def step (st : Followed) (input : SessionMapper.Input) : Followed where
  mapper := (AttentionMapper.perform st.mapper input).1
  shown := (AttentionMapper.perform st.mapper input).2.foldl receive st.shown

/-- The events tell what the last snapshot has, and the summary counts it. -/
def Faithful (st : Followed) : Prop :=
  st.shown = ((AttentionMapper.lastPending st.mapper).map (·.pair)).toFinset ∧
    AttentionMapper.pendingAttentionCount st.mapper = (AttentionMapper.lastPending st.mapper).length

/-- The document that an input makes the mapper take over. -/
def taken? (st : Followed) : SessionMapper.Input → Option Json
  | .snapshot _ _ state => some state
  | .patches _ baseRevision revision patches =>
    st.mapper.mapper.patched? baseRevision revision patches
  | .flush _ => none

/-- The pending entries have ids of their own, and an id keeps its kind. -/
def Regular (st : Followed) (input : SessionMapper.Input) : Prop :=
  ∀ state, st.taken? input = some state →
    ((pendingAttentions state).map (·.nativeId)).Nodup ∧
    (pendingAttentions state).length < 2 ^ 32 ∧
    ∀ old ∈ AttentionMapper.lastPending st.mapper, ∀ new ∈ pendingAttentions state,
      old.nativeId = new.nativeId → old.kind = new.kind

end Followed

/-! ## The attentions of a document -/

section Next

variable {state : Json} {id : String} {kind : PendingAttentionKind}

def insertAttention (next : Attentions) (attention : PendingAttention) : Attentions :=
  next.insert attention.nativeId attention.kind

theorem nextAttentions_eq (state : Json) :
    nextAttentions state = (pendingAttentions state).foldl insertAttention ∅ := by
  unfold nextAttentions pendingAttentions
  dsimp only
  rw [List.foldl_append, List.foldl_map, List.foldl_map]
  rfl

/-- The last entry with an id gives its kind. -/
theorem insertAttentions_get? (entries : List PendingAttention) :
    (entries.foldl insertAttention ∅).get? id =
      (entries.reverse.find? (·.nativeId = id)).map (·.kind) := by
  induction entries using List.reverseRecOn with
  | nil => rfl
  | append_singleton entries last inductionHypothesis =>
    rw [List.foldl_append, List.reverse_append]
    simp only [List.foldl_cons, List.foldl_nil, List.reverse_singleton, List.singleton_append,
      List.find?_cons, insertAttention, FiniteMap.get?_insert]
    by_cases same : last.nativeId = id
    · simp [same]
    · simp [same, Ne.symm same, inductionHypothesis]

theorem nextAttentions_kind (found : (nextAttentions state).get? id = some kind) :
    ∃ attention ∈ pendingAttentions state, attention.pair = (kind, id) := by
  rw [nextAttentions_eq, insertAttentions_get?] at found
  obtain ⟨attention, first, rfl⟩ := Option.map_eq_some_iff.mp found
  have named : attention.nativeId = id := by simpa using List.find?_some first
  refine ⟨attention, List.mem_reverse.mp (List.mem_of_find?_eq_some first), ?_⟩
  rw [← named]
  rfl

theorem nextAttentions_contains :
    (nextAttentions state).contains id = true ↔ id ∈ (pendingAttentions state).map (·.nativeId) := by
  rw [FiniteMap.contains_iff]
  constructor
  · rintro ⟨kind, found⟩
    obtain ⟨attention, listed, same⟩ := nextAttentions_kind found
    exact List.mem_map.mpr ⟨attention, listed, congrArg Prod.snd same⟩
  · intro named
    obtain ⟨attention, listed, rfl⟩ := List.mem_map.mp named
    have found : ((pendingAttentions state).reverse.find?
        (·.nativeId = attention.nativeId)).isSome = true :=
      List.find?_isSome.mpr ⟨attention, List.mem_reverse.mpr listed, by simp⟩
    obtain ⟨first, same⟩ := Option.isSome_iff_exists.mp found
    exact ⟨first.kind, by rw [nextAttentions_eq, insertAttentions_get?, same]; rfl⟩

/-- Where the ids are different, the map has the entries. -/
theorem nextAttentions_get? (nodup : ((pendingAttentions state).map (·.nativeId)).Nodup) :
    (nextAttentions state).get? id = some kind ↔
      (kind, id) ∈ (pendingAttentions state).map (·.pair) := by
  constructor
  · intro found
    obtain ⟨attention, listed, same⟩ := nextAttentions_kind found
    exact List.mem_map.mpr ⟨attention, listed, same⟩
  · intro inside
    obtain ⟨attention, listed, same⟩ := List.mem_map.mp inside
    have named : id ∈ (pendingAttentions state).map (·.nativeId) :=
      List.mem_map.mpr ⟨attention, listed, congrArg Prod.snd same⟩
    obtain ⟨other, found⟩ := FiniteMap.contains_iff.mp (nextAttentions_contains.mpr named)
    obtain ⟨own, also, sameOwn⟩ := nextAttentions_kind found
    have sameIds : own.nativeId = attention.nativeId :=
      (congrArg Prod.snd sameOwn).trans (congrArg Prod.snd same).symm
    have sameEntry : own = attention := List.inj_on_of_nodup_map nodup also listed sameIds
    rw [found, ← show kind = other from
      (congrArg Prod.fst same).symm.trans (sameEntry ▸ congrArg Prod.fst sameOwn)]

/-- The map has as many entries as there are ids. -/
theorem nextAttentions_length (state : Json) :
    (nextAttentions state).toList.length =
      ((pendingAttentions state).map (·.nativeId)).toFinset.card := by
  have keys : (nextAttentions state).keys.toFinset =
      ((pendingAttentions state).map (·.nativeId)).toFinset := by
    ext id
    rw [List.mem_toFinset, List.mem_toFinset, ← nextAttentions_contains, FiniteMap.contains_iff,
      FiniteMap.mem_keys]
  rw [← keys, List.toFinset_card_of_nodup (FiniteMap.nodup_keys _)]
  simp [FiniteMap.toList, FiniteMap.keys, AList.keys, List.keys]

end Next

/-! ## What a step tells -/

section Diff

variable {state : Json} {id : String} {kind : PendingAttentionKind} {attentions : Attentions}
  {shown : AttentionPairs} {pair : PendingAttentionKind × String}

theorem findAttention_pair {attention : PendingAttention}
    (found : findAttention state id kind = some attention) : attention.pair = (kind, id) := by
  cases kind with
  | userQuestion =>
    obtain ⟨question, first, rfl⟩ := Option.map_eq_some_iff.mp found
    have named : question.questionId = id := by simpa using List.find?_some first
    rw [← named]
    rfl
  | riskApproval =>
    obtain ⟨approval, first, rfl⟩ := Option.map_eq_some_iff.mp found
    have named : approval.approvalId = id := by simpa using List.find?_some first
    rw [← named]
    rfl

/-- What is new in the map is found in the document. -/
theorem findAttention_of_next (next : (nextAttentions state).get? id = some kind) :
    ∃ attention, findAttention state id kind = some attention := by
  obtain ⟨attention, listed, same⟩ := nextAttentions_kind next
  obtain ⟨question, inside, rfl⟩ | ⟨approval, inside, rfl⟩ :
      (∃ q ∈ state.extractQuestions, .question q = attention) ∨
        ∃ a ∈ state.extractApprovals, .approval a = attention := by
    simpa [pendingAttentions] using listed
  · cases same
    have found : (state.extractQuestions.find?
        (·.questionId = question.questionId)).isSome = true :=
      List.find?_isSome.mpr ⟨question, inside, by simp⟩
    obtain ⟨first, same⟩ := Option.isSome_iff_exists.mp found
    exact ⟨.question first, congrArg (Option.map PendingAttention.question) same⟩
  · cases same
    have found : (state.extractApprovals.find?
        (·.approvalId = approval.approvalId)).isSome = true :=
      List.find?_isSome.mpr ⟨approval, inside, by simp⟩
    obtain ⟨first, same⟩ := Option.isSome_iff_exists.mp found
    exact ⟨.approval first, congrArg (Option.map PendingAttention.approval) same⟩

theorem receive_outputs (outputs : List OutputEvent) :
    (outputs.map DomainEvent.output).foldl receive shown = shown := by
  induction outputs with
  | nil => rfl
  | cons output rest inductionHypothesis => exact inductionHypothesis

theorem receive_removed (entries : List (String × PendingAttentionKind)) :
    pair ∈ (entries.map fun entry =>
        DomainEvent.pendingAttentionRemoved entry.2 entry.1 none).foldl receive shown ↔
      pair ∈ shown ∧ (pair.2, pair.1) ∉ entries := by
  induction entries generalizing shown with
  | nil => simp
  | cons entry rest inductionHypothesis =>
    have same : pair = (entry.2, entry.1) ↔ (pair.2, pair.1) = entry := by
      constructor
      · rintro rfl
        rfl
      · rintro rfl
        rfl
    rw [List.map_cons, List.foldl_cons, inductionHypothesis]
    simp only [receive, Finset.mem_erase, List.mem_cons, ne_eq, same]
    tauto

theorem receive_added {events : List DomainEvent}
    (added : ∀ event ∈ events, ∃ attention, event = .pendingAttentionAdded attention) :
    pair ∈ events.foldl receive shown ↔
      pair ∈ shown ∨ ∃ attention, .pendingAttentionAdded attention ∈ events ∧
        attention.pair = pair := by
  induction events generalizing shown with
  | nil => simp
  | cons event rest inductionHypothesis =>
    obtain ⟨attention, rfl⟩ := added event List.mem_cons_self
    rw [List.foldl_cons,
      inductionHypothesis fun event inside => added event (List.mem_cons_of_mem _ inside)]
    simp only [receive, Finset.mem_insert, List.mem_cons]
    constructor
    · rintro ((rfl | before) | ⟨later, inside, same⟩)
      · exact .inr ⟨attention, .inl rfl, rfl⟩
      · exact .inl before
      · exact .inr ⟨later, .inr inside, same⟩
    · rintro (before | ⟨later, now | inside, same⟩)
      · exact .inl (.inr before)
      · cases now
        exact .inl (.inl same.symm)
      · exact .inr ⟨later, inside, same⟩

/-- The events of a new document remove the ids that it does not have, and add those that it
has and the old one had not. -/
theorem receive_diff :
    (kind, id) ∈ (diffAttentions attentions state).2.foldl receive shown ↔
      ((kind, id) ∈ shown ∧
        ¬ (attentions.get? id = some kind ∧ (nextAttentions state).contains id = false)) ∨
      ((nextAttentions state).get? id = some kind ∧ attentions.contains id = false) := by
  unfold diffAttentions
  dsimp only
  rw [List.foldl_append, receive_added, receive_removed]
  · refine or_congr (and_congr_right fun _ => not_congr ?_) ?_
    · rw [List.mem_filter, SessionMapper.mem_inKeyOrder, Bool.not_eq_true']
    · constructor
      · rintro ⟨attention, inside, same⟩
        obtain ⟨entry, listed, made⟩ := List.mem_filterMap.mp inside
        split at made
        · cases made
        · rename_i absent
          obtain ⟨found, first, equal⟩ := Option.map_eq_some_iff.mp made
          cases equal
          have own := (findAttention_pair first).symm.trans same
          cases own
          exact ⟨SessionMapper.mem_inKeyOrder.mp listed, by simpa using absent⟩
      · rintro ⟨next, absent⟩
        obtain ⟨attention, found⟩ := findAttention_of_next next
        have listed := SessionMapper.mem_inKeyOrder.mpr next
        refine ⟨attention, List.mem_filterMap.mpr ⟨(id, kind), listed, ?_⟩,
          findAttention_pair found⟩
        simp [absent, found]
  · intro event inside
    obtain ⟨entry, -, made⟩ := List.mem_filterMap.mp inside
    split at made
    · cases made
    · obtain ⟨attention, -, equal⟩ := Option.map_eq_some_iff.mp made
      exact ⟨attention, equal.symm⟩

end Diff

/-! ## Runs -/

namespace Followed

variable {st : Followed} {input : SessionMapper.Input} {state : Json}

theorem applySnapshot_spec (m : AttentionMapper) (now revision : Nat) (shown : AttentionPairs) :
    (AttentionMapper.applySnapshot m now revision state).1.attentions = nextAttentions state ∧
    (AttentionMapper.applySnapshot m now revision state).1.mapper.state = some state ∧
    (AttentionMapper.applySnapshot m now revision state).2.foldl receive shown =
      (diffAttentions m.attentions state).2.foldl receive shown := by
  refine ⟨rfl, ?_, ?_⟩
  · simp [AttentionMapper.applySnapshot, SessionMapper.applySnapshot]
  · simp only [AttentionMapper.applySnapshot]
    rw [List.foldl_append, receive_outputs]

/-- A document is taken over. -/
theorem step_of_taken (taken : st.taken? input = some state) :
    (st.step input).mapper.attentions = nextAttentions state ∧
    (st.step input).mapper.mapper.state = some state ∧
    (st.step input).shown =
      (diffAttentions st.mapper.attentions state).2.foldl receive st.shown := by
  cases input with
  | snapshot now revision new =>
    cases taken
    exact applySnapshot_spec st.mapper now revision st.shown
  | patches now baseRevision revision patches =>
    have patched : st.mapper.mapper.patched? baseRevision revision patches = some state := taken
    unfold step AttentionMapper.perform
    dsimp only
    rw [FullMapper.applyPatches_eq, patched]
    exact applySnapshot_spec st.mapper now revision st.shown
  | flush now => cases taken

/-- Otherwise nothing is told. -/
theorem step_of_none (none_ : st.taken? input = none) :
    (st.step input).mapper.attentions = st.mapper.attentions ∧
    (st.step input).mapper.mapper.state = st.mapper.mapper.state ∧
    (st.step input).shown = st.shown := by
  cases input with
  | snapshot now revision new => cases none_
  | patches now baseRevision revision patches =>
    have unpatched : st.mapper.mapper.patched? baseRevision revision patches = none := none_
    unfold step AttentionMapper.perform
    dsimp only
    rw [FullMapper.applyPatches_eq, unpatched]
    exact ⟨rfl, rfl, rfl⟩
  | flush now =>
    refine ⟨rfl, ?_, receive_outputs _⟩
    simp [step, AttentionMapper.perform, SessionMapper.flushDueOutputs]

/-- The attentions are those of the document. -/
def Tracks (st : Followed) : Prop :=
  st.mapper.attentions = (st.mapper.mapper.state.map nextAttentions).getD ∅

theorem tracks_step (tracks : st.Tracks) (input : SessionMapper.Input) : (st.step input).Tracks := by
  unfold Tracks
  cases taken : st.taken? input with
  | none =>
    obtain ⟨attentions, document, -⟩ := step_of_none taken
    rw [attentions, document]
    exact tracks
  | some state =>
    obtain ⟨attentions, document, -⟩ := step_of_taken taken
    rw [attentions, document]
    rfl

theorem lastPending_of_some {m : AttentionMapper} (document : m.mapper.state = some state) :
    AttentionMapper.lastPending m = pendingAttentions state := by
  unfold AttentionMapper.lastPending
  rw [document]
  rfl

/-- The count is right where the ids are different. -/
theorem count_eq_length {m : AttentionMapper} (attentions : m.attentions = nextAttentions state) :
    AttentionMapper.pendingAttentionCount m = (pendingAttentions state).length ↔
      ((pendingAttentions state).map (·.nativeId)).Nodup ∧
        (pendingAttentions state).length < 2 ^ 32 := by
  unfold AttentionMapper.pendingAttentionCount
  rw [attentions, nextAttentions_length]
  have most : ((pendingAttentions state).map (·.nativeId)).toFinset.card ≤
      (pendingAttentions state).length := by
    simpa using List.toFinset_card_le ((pendingAttentions state).map (·.nativeId))
  constructor
  · intro same
    have small : (pendingAttentions state).length < 2 ^ 32 := by omega
    have all : ((pendingAttentions state).map (·.nativeId)).toFinset.card =
        ((pendingAttentions state).map (·.nativeId)).length := by
      rw [List.length_map]
      omega
    have nodup : (((pendingAttentions state).map (·.nativeId)) : Multiset String).Nodup :=
      Multiset.toFinset_card_eq_card_iff_nodup.mp all
    exact ⟨Multiset.coe_nodup.mp nodup, small⟩
  · rintro ⟨nodup, small⟩
    rw [List.toFinset_card_of_nodup nodup, List.length_map]
    omega

/-- What is shown is what the mapper has. -/
theorem shown_iff (tracks : st.Tracks) (faithful : st.Faithful) {kind : PendingAttentionKind}
    {id : String} : (kind, id) ∈ st.shown ↔ st.mapper.attentions.get? id = some kind := by
  obtain ⟨shown, count⟩ := faithful
  rw [shown, List.mem_toFinset]
  cases document : st.mapper.mapper.state with
  | none =>
    have nothing : AttentionMapper.lastPending st.mapper = [] := by
      simp [AttentionMapper.lastPending, document]
    have empty : st.mapper.attentions = ∅ := by simpa [Tracks, document] using tracks
    simp [nothing, empty]
  | some state =>
    have attentions : st.mapper.attentions = nextAttentions state := by
      simpa [Tracks, document] using tracks
    rw [lastPending_of_some document] at count ⊢
    rw [attentions]
    exact (nextAttentions_get? ((count_eq_length attentions).mp count).1).symm

theorem mem_shown (faithful : st.Faithful) {pair : PendingAttentionKind × String} :
    pair ∈ st.shown ↔ ∃ old ∈ AttentionMapper.lastPending st.mapper, old.pair = pair := by
  rw [faithful.1, List.mem_toFinset, List.mem_map]

/-- A step keeps the events faithful exactly when it is regular. -/
theorem faithful_step_iff (tracks : st.Tracks) (faithful : st.Faithful) :
    (st.step input).Faithful ↔ st.Regular input := by
  cases taken : st.taken? input with
  | none =>
    obtain ⟨attentions, document, shown⟩ := step_of_none taken
    have same : (st.step input).Faithful := by
      unfold Faithful AttentionMapper.pendingAttentionCount AttentionMapper.lastPending
      rw [attentions, document, shown]
      exact faithful
    refine iff_of_true same ?_
    intro state found
    rw [taken] at found
    cases found
  | some state =>
    obtain ⟨attentions, document, shown⟩ := step_of_taken taken
    have pending := lastPending_of_some document
    constructor
    · rintro ⟨told, count⟩ state' found
      rw [taken] at found
      cases found
      rw [pending] at told count
      obtain ⟨nodup, small⟩ := (count_eq_length attentions).mp count
      refine ⟨nodup, small, ?_⟩
      intro old before new after sameId
      -- the old entry is not removed, since its id is still there
      have there : (nextAttentions state).contains old.nativeId = true := by
        rw [nextAttentions_contains, sameId]
        exact List.mem_map_of_mem after
      have kept : (old.kind, old.nativeId) ∈ (st.step input).shown := by
        rw [shown, receive_diff]
        left
        refine ⟨(mem_shown faithful).mpr ⟨old, before, rfl⟩, ?_⟩
        rintro ⟨-, gone⟩
        rw [there] at gone
        cases gone
      rw [told, List.mem_toFinset, ← nextAttentions_get? nodup] at kept
      have own : (nextAttentions state).get? new.nativeId = some new.kind :=
        (nextAttentions_get? nodup).mpr (List.mem_map.mpr ⟨new, after, rfl⟩)
      rw [← sameId, kept] at own
      exact Option.some.inj own
    · intro regular
      obtain ⟨nodup, small, kinds⟩ := regular state taken
      refine ⟨?_, by rw [pending]; exact (count_eq_length attentions).mpr ⟨nodup, small⟩⟩
      rw [pending, shown]
      ext ⟨kind, id⟩
      rw [receive_diff, List.mem_toFinset, ← nextAttentions_get? nodup]
      -- an id that both have keeps its kind
      have keeps : ∀ k, (k, id) ∈ st.shown → ∀ k', (nextAttentions state).get? id = some k' →
          k = k' := by
        intro k before k' after
        obtain ⟨old, listed, same⟩ := (mem_shown faithful).mp before
        obtain ⟨new, also, sameNew⟩ := nextAttentions_kind after
        cases same
        have sameId : old.nativeId = new.nativeId := (congrArg Prod.snd sameNew).symm
        exact (kinds old listed new also sameId).trans (congrArg Prod.fst sameNew)
      constructor
      · rintro (⟨before, notGone⟩ | ⟨next, -⟩)
        · have held := (shown_iff tracks faithful).mp before
          have there : (nextAttentions state).contains id = true := by
            by_contra gone
            exact notGone ⟨held, by simpa using gone⟩
          obtain ⟨k', after⟩ := FiniteMap.contains_iff.mp there
          rw [keeps kind before k' after]
          exact after
        · exact next
      · intro next
        cases held : st.mapper.attentions.contains id with
        | false => exact .inr ⟨next, rfl⟩
        | true =>
          obtain ⟨k, found⟩ := FiniteMap.contains_iff.mp held
          have before := (shown_iff tracks faithful).mpr found
          rw [keeps k before kind next] at before
          refine .inl ⟨before, ?_⟩
          rintro ⟨-, gone⟩
          rw [FiniteMap.contains_iff.mpr ⟨kind, next⟩] at gone
          cases gone

/-- **The attentions are followed**: in every run the events tell the pending entries of each
snapshot, and the summary counts them, exactly when all steps are regular. -/
theorem attentions_followed (inputs : List SessionMapper.Input) :
    (∀ before after, inputs = before ++ after → (before.foldl step {}).Faithful) ↔
      Along step Regular {} inputs :=
  Along.iff_reached (fun _ input tracks => tracks_step tracks input)
    (fun _ _ tracks faithful => faithful_step_iff tracks faithful) rfl ⟨rfl, rfl⟩

/-! ## A question becomes an approval -/

def askedFor (list : String) : Json := .obj [(list, .arr [.obj [("id", .str "a")]])]

theorem attention_kind_missed :
    ¬ ∀ inputs : List SessionMapper.Input, (inputs.foldl step {}).Faithful := by
  intro every
  have kept := every [.snapshot 0 1 (askedFor "pendingQuestions"),
    .snapshot 0 2 (askedFor "pendingApprovals")]
  unfold Faithful at kept
  revert kept
  decide +kernel

end Followed

end AgentConsole.Bridge
