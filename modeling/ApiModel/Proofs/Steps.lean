import ApiModel.Proofs.DirectLowering

/-! Builds side by side, step by step. A relation between builds holds of whole responses,
operations and descriptions, if it holds of the steps they are compiled in and steps in a row keep
it. A property of one build is such a relation, with the build at its own side. -/
namespace ApiModel.Compile

open Api (Response)

/-- Relations between builds that steps in a row keep. -/
structure Steps (P : ∀ {α : Type}, Build α → Build α → Prop) : Prop where
  of_pure : ∀ {α : Type} (a : α), P (pure a) (pure a)
  of_refusal : ∀ {α : Type} (construct : Construct) (location : Text),
    P (throw (.unsupported construct location) : Build α) (throw (.unsupported construct location))
  of_bind : ∀ {α β : Type} {x y : Build α} {f g : α → Build β},
    P x y → (∀ a, P (f a) (g a)) → P (x >>= f) (y >>= g)
  of_report : ∀ n, P (report n) (report n)

theorem Steps.eq : Steps fun x y => x = y where
  of_pure _ := rfl
  of_refusal _ _ := rfl
  of_bind first next := by rw [first, funext next]
  of_report _ := rfl

/-! Responses. -/

/-- How responses correspond: by the schemas of their bodies, by their headers under a status code,
and by the members that come of these. -/
structure Likeness where
  bodies : Schema → Schema → Prop
  headers : Int → List (Text × Api.Header) → List (Text × Api.Header) → Prop
  members : OrderedMap Member → OrderedMap Member → Prop

/-- Schemas that a response may have for its body. -/
def isBody : Schema → Bool
  | .reference _ _ => true
  | .union _ _ _ => true
  | .object _ _ _ none => true
  | _ => false

/-- Schemas that are taken apart in the same way, where they stand for the body of a response. -/
inductive Shaped (bodies : Schema → Schema → Prop) : Schema → Schema → Prop where
  | reference (name : SchemaName) (note note' : Option Text) :
      Shaped bodies (.reference name note) (.reference name note')
  | union {kind kind' : UnionKind} {note note' : Option Text} {branches branches' : List Schema}
      (each : List.Forall₂ bodies branches branches') :
      Shaped bodies (.union kind note branches) (.union kind' note' branches')
  | object (notes notes' : Notes) (required required' : List Text)
      (properties properties' : List (Text × Schema)) :
      Shaped bodies (.object notes required properties none)
        (.object notes' required' properties' none)
  | refused {schema schema' : Schema} (unfit : isBody schema = false)
      (unfit' : isBody schema' = false) (kinds : schema.kindWord = schema'.kindWord) :
      Shaped bodies schema schema'

structure Likeness.Pairs (like : Likeness) (response response' : Response) : Prop where
  status : response.status = response'.status
  schema : Option.Rel like.bodies response.schema response'.schema
  headers : ∀ code, Number.integer? response.status = some code →
    like.headers code response.headers.entries response'.headers.entries

def bodyStructure (s : Subject) (code : Int) (suffix : Text) (notes : Notes) (required : List Text)
    (properties : List (Text × Schema)) : Lowering Unit :=
  let name := s.lead ++ toString code ++ "Response" ++ suffix ++ "Body"
  lowerObject s.context name notes.description required properties >>= writeStructure name

/-- Relations between builds that the steps of corresponding responses have one by one. The members
that come of headers need not be the same, so these are followed by the steps that use them. -/
structure ResponsePairs (s s' : Subject) (like : Likeness)
    (P : ∀ {α : Type}, Build α → Build α → Prop) : Prop extends Steps P where
  name_eq : s.name = s'.name
  shaped : ∀ {schema schema'}, like.bodies schema schema' → Shaped like.bodies schema schema'
  isEmpty_eq : ∀ {m m'}, like.members m m' → m.isEmpty = m'.isEmpty
  of_classify : ∀ produced, P (classify produced) (classify produced)
  of_headers : ∀ {α : Type} {code headers headers'} {f g : OrderedMap Member → Build α},
    like.headers code headers headers' → (∀ m m', like.members m m' → P (f m) (g m')) →
      P (performChecked (headerMembers s code 0 headers .empty) >>= f)
        (performChecked (headerMembers s' code 0 headers' .empty) >>= g)
  of_object :
    ∀ {notes notes' required required' properties properties'} (code : Int) (suffix : Text),
    like.bodies (.object notes required properties none)
      (.object notes' required' properties' none) →
    P (performChecked (bodyStructure s code suffix notes required properties))
      (performChecked (bodyStructure s' code suffix notes' required' properties'))
  of_mergeOutput : ∀ {m m'} code suffix body, like.members m m' →
    P (mergeOutput s code suffix body m) (mergeOutput s' code suffix body m')

theorem bodyTypes_of_unfit {s : Subject} {code : Int} {suffix : Text} {schema : Schema}
    (unfit : isBody schema = false) :
    bodyTypes s code suffix schema =
      throw (.unsupported (.responseBody schema.kindWord) (s.name ++ "." ++ toString code)) := by
  unfold bodyTypes
  split
  · cases unfit
  · cases unfit
  · cases unfit
  · rfl

namespace ResponsePairs

variable {s s' : Subject} {like : Likeness} {P : ∀ {α : Type}, Build α → Build α → Prop}
  (h : ResponsePairs s s' like P) {code : Int}

include h

theorem lead_eq : s.lead = s'.lead := congrArg Text.upperFirst h.name_eq

theorem of_bodyTypesFrom {branches branches' : List Schema}
    (each : List.Forall₂ (fun branch branch' => ∀ suffix,
      P (bodyTypes s code suffix branch) (bodyTypes s' code suffix branch')) branches branches')
    (suffix : Text) (n : Nat) :
    P (bodyTypesFrom s code suffix n branches) (bodyTypesFrom s' code suffix n branches') := by
  induction each generalizing n with
  | nil =>
    rw [bodyTypesFrom, bodyTypesFrom]
    exact h.of_pure []
  | cons first _ ih =>
    rw [bodyTypesFrom, bodyTypesFrom]
    refine h.of_bind (first _) fun types => h.of_bind (ih _) fun more => ?_
    exact h.of_pure (types ++ more)

theorem of_bodyTypes (schema : Schema) : ∀ schema', like.bodies schema schema' → ∀ suffix,
    P (bodyTypes s code suffix schema) (bodyTypes s' code suffix schema') := by
  induction schema using Schema.sizeInduction with
  | step schema ih =>
    intro schema' alike suffix
    cases h.shaped alike with
    | reference =>
      rw [bodyTypes, bodyTypes]
      exact h.of_pure _
    | @union _ _ _ _ branches branches' each =>
      rw [bodyTypes, bodyTypes]
      refine h.of_bodyTypesFrom ?_ suffix 0
      rw [List.forall₂_iff_zip] at each ⊢
      refine ⟨each.1, fun {branch branch'} both => ?_⟩
      exact ih branch (Schema.sizeOf_branch (List.of_mem_zip both).1) branch' (each.2 both)
    | object =>
      rw [bodyTypes, bodyTypes, h.lead_eq]
      have stored := h.of_object code suffix alike
      unfold bodyStructure at stored
      rw [h.lead_eq] at stored
      exact h.of_bind stored fun _ => h.of_pure _
    | refused unfit unfit' kinds =>
      rw [bodyTypes_of_unfit unfit, bodyTypes_of_unfit unfit', kinds, h.name_eq]
      exact h.of_refusal _ _

theorem of_produceBodies {m m' : OrderedMap Member} (alike : like.members m m')
    (bodies : List (Text × Text)) :
    P (produceBodies s code m bodies) (produceBodies s' code m' bodies) := by
  induction bodies with
  | nil => exact h.of_pure []
  | cons body rest ih =>
    have last (produced : Produced) : P
        (do classify produced
            return produced :: (← produceBodies s code m rest))
        (do classify produced
            return produced :: (← produceBodies s' code m' rest)) :=
      h.of_bind (h.of_classify produced) fun _ => h.of_bind ih fun _ => h.of_pure _
    unfold produceBodies
    rw [h.isEmpty_eq alike]
    split
    · exact h.of_bind (h.of_pure _) last
    · exact h.of_bind (h.of_mergeOutput _ _ _ alike) last

theorem of_produceCoded {response response' : Response}
    (schema : Option.Rel like.bodies response.schema response'.schema)
    (headers : like.headers code response.headers.entries response'.headers.entries) :
    P (produceCoded s code response) (produceCoded s' code response') := by
  refine h.of_headers headers fun m m' alike => ?_
  generalize response.schema = given at *
  generalize response'.schema = given' at *
  cases schema with
  | none =>
    dsimp only
    rw [h.isEmpty_eq alike]
    split
    · exact h.of_pure []
    · refine h.of_bind (h.of_mergeOutput _ _ _ alike) fun produced => ?_
      exact h.of_bind (h.of_classify produced) fun _ => h.of_pure _
  | some bodies =>
    exact h.of_bind (h.of_bodyTypes _ _ bodies _) fun types => h.of_produceBodies alike types

theorem of_produce {response response' : Response} (pair : like.Pairs response response') :
    P (produce s response) (produce s' response') := by
  unfold produce
  rw [← pair.status, h.name_eq]
  split
  · exact h.of_bind (h.of_report _) fun _ => h.of_pure []
  · cases coded : Number.integer? response.status with
    | none => exact h.of_refusal _ _
    | some code => exact h.of_produceCoded pair.schema (pair.headers code coded)

theorem of_produceAll {responses responses' : List Response}
    (pairs : List.Forall₂ like.Pairs responses responses') :
    P (produceAll s responses) (produceAll s' responses') := by
  induction pairs with
  | nil => exact h.of_pure []
  | cons first _ ih =>
    exact h.of_bind (h.of_produce first) fun made => h.of_bind ih fun more =>
      h.of_pure (made ++ more)

end ResponsePairs

/-! One build at its own side. -/

def Beside (U : ∀ {α : Type}, Build α → Prop) {α : Type} (x y : Build α) : Prop := x = y ∧ U x

theorem Beside.bind {U : ∀ {α : Type}, Build α → Prop}
    (of_bind : ∀ {α β : Type} {x : Build α} {f : α → Build β}, U x → (∀ a, U (f a)) → U (x >>= f))
    {α β : Type} {x y : Build α} {f g : α → Build β} (first : Beside U x y)
    (next : ∀ a, Beside U (f a) (g a)) : Beside U (x >>= f) (y >>= g) := by
  obtain ⟨rfl, first⟩ := first
  obtain rfl : f = g := funext fun a => (next a).1
  exact ⟨rfl, of_bind first fun a => (next a).2⟩

def Likeness.same : Likeness := ⟨Eq, fun _ => Eq, Eq⟩

theorem Likeness.pairs_same (response : Response) : Likeness.same.Pairs response response := by
  refine ⟨rfl, ?_, fun _ _ => rfl⟩
  cases response.schema with
  | none => exact .none
  | some schema => exact .some rfl

theorem shaped_self (schema : Schema) : Shaped Eq schema schema := by
  cases fit : isBody schema with
  | false => exact .refused fit fit rfl
  | true =>
    unfold isBody at fit
    split at fit
    · exact .reference _ _ _
    · exact .union (List.forall₂_same.2 fun _ _ => rfl)
    · exact .object _ _ _ _ _ _
    · cases fit

/-- A property that the steps of a response have one by one, and that steps in a row keep. -/
structure ResponseSteps (s : Subject) (U : ∀ {α : Type}, Build α → Prop) : Prop where
  of_pure : ∀ {α : Type} (a : α), U (pure a)
  of_refusal : ∀ {α : Type} (construct : Construct) (location : Text),
    U (throw (.unsupported construct location) : Build α)
  of_bind : ∀ {α β : Type} {x : Build α} {f : α → Build β}, U x → (∀ a, U (f a)) → U (x >>= f)
  of_report : ∀ n, U (report n)
  of_classify : ∀ produced, U (classify produced)
  of_headers : ∀ code headers, U (performChecked (headerMembers s code 0 headers .empty))
  of_object : ∀ code suffix notes required properties,
    U (performChecked (bodyStructure s code suffix notes required properties))
  of_mergeOutput : ∀ code suffix body headers, U (mergeOutput s code suffix body headers)

namespace ResponseSteps

variable {s : Subject} {U : ∀ {α : Type}, Build α → Prop} (h : ResponseSteps s U) {code : Int}

include h

theorem pairs : ResponsePairs s s .same (Beside U) where
  of_pure a := ⟨rfl, h.of_pure a⟩
  of_refusal construct location := ⟨rfl, h.of_refusal construct location⟩
  of_bind := Beside.bind h.of_bind
  of_report n := ⟨rfl, h.of_report n⟩
  name_eq := rfl
  shaped := by
    rintro schema _ rfl
    exact shaped_self schema
  isEmpty_eq := congrArg _
  of_classify produced := ⟨rfl, h.of_classify produced⟩
  of_headers := by
    rintro _ code headers _ f g rfl next
    exact Beside.bind h.of_bind ⟨rfl, h.of_headers code headers⟩ fun m => next m m rfl
  of_object := by
    rintro notes _ required _ properties _ code suffix ⟨⟩
    exact ⟨rfl, h.of_object code suffix notes required properties⟩
  of_mergeOutput := by
    rintro m _ code suffix body rfl
    exact ⟨rfl, h.of_mergeOutput code suffix body m⟩

theorem of_bodyTypes (schema : Schema) (suffix : Text) : U (bodyTypes s code suffix schema) :=
  (h.pairs.of_bodyTypes schema schema rfl suffix).2

theorem of_bodyTypesFrom (branches : List Schema) (suffix : Text) (n : Nat) :
    U (bodyTypesFrom s code suffix n branches) :=
  (h.pairs.of_bodyTypesFrom (List.forall₂_same.2 fun branch _ =>
    h.pairs.of_bodyTypes branch branch rfl) suffix n).2

theorem of_produceBodies (headers : OrderedMap Member) (bodies : List (Text × Text)) :
    U (produceBodies s code headers bodies) :=
  (h.pairs.of_produceBodies rfl bodies).2

theorem of_produce (response : Response) : U (produce s response) :=
  (h.pairs.of_produce (Likeness.pairs_same response)).2

theorem of_produceAll (responses : List Response) : U (produceAll s responses) :=
  (h.pairs.of_produceAll (List.forall₂_same.2 fun response _ =>
    Likeness.pairs_same response)).2

end ResponseSteps

/-! Operations and named schemas. -/

/-- The input of an operation, as it is compiled before its responses. -/
def inputOf (s : Subject) (operation : Api.Operation) : Build Input := do
  let body ← perform (bodyType s operation.body)
  let members ← perform (parameterMembers s 0 operation.parameters .empty)
  assembleInput s operation body members

section Operations

variable {P : ∀ {α : Type}, Build α → Build α → Prop} {c c' : Context} {name : Text}
  {operation operation' : Api.Operation}

theorem Steps.of_decompose (h : Steps P) {verb url : Text}
    (input : P (inputOf ⟨c, name⟩ operation) (inputOf ⟨c', name⟩ operation'))
    (responses : P (produceAll ⟨c, name⟩ operation.responses)
      (produceAll ⟨c', name⟩ operation'.responses))
    (described : describe ⟨c, name⟩ verb url operation =
      describe ⟨c', name⟩ verb url operation') :
    P (decompose c name verb url operation) (decompose c' name verb url operation') := by
  have parts (c : Context) (operation : Api.Operation) :
      decompose c name verb url operation = do
        let input ← inputOf ⟨c, name⟩ operation
        let produced ← produceAll ⟨c, name⟩ operation.responses
        let description := describe ⟨c, name⟩ verb url operation input produced
        report (.decomposed name description.input description.output description.errors.length)
        return description := by
    simp only [decompose, inputOf, bind_assoc]
  rw [parts c, parts c', described]
  refine h.of_bind input fun input => h.of_bind responses fun produced => ?_
  exact h.of_bind (h.of_report _) fun _ => h.of_pure _

/-- Relations between builds that also the entering of an operation has. -/
structure OperationSteps (P : ∀ {α : Type}, Build α → Build α → Prop) : Prop extends Steps P where
  of_known : ∀ {α : Type} {name : Text} {f g : Bool → Build α}, (∀ known, P (f known) (g known)) →
    P (get >>= fun p => f (p.model.operations.contains name))
      (get >>= fun p => g (p.model.operations.contains name))
  of_entry : ∀ (name : Text) (description : OperationDescription),
    let entered : Build Unit := modify fun p =>
      { p with model := { p.model with operations := p.model.operations.insert name description } }
    P entered entered

def enterOperation (c : Context) (name : Text) (operation : Api.Operation) (known : Bool) :
    Build Unit := do
  if known then
    report (.repeatedOperation name)
  let description ← decompose c name operation.method.word operation.path operation
  modify fun p =>
    { p with model := { p.model with operations := p.model.operations.insert name description } }

theorem OperationSteps.of_addOperation (h : OperationSteps P)
    (decomposed : P (decompose c name operation.method.word operation.path operation)
      (decompose c' name operation'.method.word operation'.path operation')) :
    P (addOperation c name operation) (addOperation c' name operation') := by
  refine h.of_known (f := enterOperation c name operation) (g := enterOperation c' name operation')
    fun known => ?_
  have last := h.of_bind decomposed fun description => h.of_entry name description
  cases known with
  | true => exact h.of_bind (h.of_report _) fun _ => last
  | false => exact last

theorem Steps.of_addOperations (h : Steps P) {operations operations' : List Api.Operation}
    (ignored : c.override.ignoreOperations = c'.override.ignoreOperations)
    (each : List.Forall₂ (fun operation operation' =>
      operationName? operation = operationName? operation' ∧
        operation.method = operation'.method ∧ operation.path = operation'.path ∧
        ∀ name, P (addOperation c name operation) (addOperation c' name operation'))
      operations operations') :
    P (addOperations c operations) (addOperations c' operations') := by
  induction each with
  | nil => exact h.of_pure ()
  | cons first _ ih =>
    obtain ⟨named, method, path, added⟩ := first
    rw [addOperations, addOperations, ← named, ← method, ← path, ← ignored]
    split
    · exact h.of_bind (h.of_report _) fun _ => ih
    · dsimp only
      split
      · exact h.of_bind (h.of_report _) fun _ => ih
      · exact h.of_bind (added _) fun _ => ih

theorem Steps.of_lowerComponents (h : Steps P) {l l' : List (Text × Schema)}
    (each : List.Forall₂ (fun e e' =>
      P (perform (lower c e.1 e.2)) (perform (lower c' e'.1 e'.2))) l l') :
    P (lowerComponents c l) (lowerComponents c' l') := by
  induction each with
  | nil => exact h.of_pure ()
  | cons first _ ih =>
    rw [lowerComponents_cons, lowerComponents_cons]
    exact h.of_bind first fun _ => ih

end Operations

end ApiModel.Compile
