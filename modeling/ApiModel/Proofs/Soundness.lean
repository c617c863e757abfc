import ApiModel.Proofs.Closure
import ApiModel.Proofs.Run

/-! The invariant of a model in the making: every structure numbers its members by the order of
their names, and every type that an entry refers to is known. Building adds names and removes none,
so what is known stays known. -/
namespace ApiModel

variable {refs defined more : Text → Prop} {r r' r'' : Registry} {trace : List Effect}

/-- A structure that is written numbers its members by the order of their names. -/
def Effect.Ranked : Effect → Prop
  | .structure _ s => Members.Ranked s.members
  | _ => True

/-- Members of known types. -/
def MembersKnown (refs defined : Text → Prop) (members : OrderedMap Member) : Prop :=
  ∀ key member, members.get? key = some member → Known refs defined member.valueType

namespace MembersKnown

theorem mono {members : OrderedMap Member} (h : MembersKnown refs defined members)
    (grown : ∀ name, defined name → more name) : MembersKnown refs more members :=
  fun key member found => (h key member found).mono grown

theorem empty : MembersKnown refs defined .empty := by
  intro key member found
  cases found

theorem insert {members : OrderedMap Member} (h : MembersKnown refs defined members) {key : Text}
    {member : Member} (known : Known refs defined member.valueType) :
    MembersKnown refs defined (members.insert key member) := by
  intro other member' found
  rw [OrderedMap.get?_insert] at found
  split at found
  · cases found
    exact known
  · exact h other member' found

theorem merge {sources : List (Text × OrderedMap Member)}
    (h : ∀ source ∈ sources, MembersKnown refs defined source.2) :
    MembersKnown refs defined (Members.merge sources).members := by
  intro key member found
  obtain ⟨source, listed, original, given, same⟩ := Members.get?_merge found
  rw [same]
  exact h source listed key original given

theorem mentions {s : Structure} {name : Text} (h : MembersKnown refs defined s.members) :
    ∀ type ∈ (Effect.structure name s).mentions, Known refs defined type := by
  intro type mentioned
  obtain ⟨member, value, rfl⟩ := List.mem_map.1 mentioned
  obtain ⟨⟨key, _⟩, listed, rfl⟩ := List.mem_map.1 value
  exact h key _ (OrderedMap.get?_eq_some_iff.2 listed)

end MembersKnown

namespace Registry

/-- The invariant. -/
structure Sound (refs : Text → Prop) (r : Registry) : Prop where
  ranked : ∀ e, r.Holds e → e.Ranked
  known : ∀ e, r.Holds e → ∀ type ∈ e.mentions, Known refs r.Defines type

theorem sound_empty : Sound refs empty where
  ranked e held := by
    cases e with
    | «structure» name s => cases held
    | _ => trivial
  known e held type mentioned := by
    cases e with
    | notice n => cases mentioned
    | _ => cases held

theorem Sound.members {name : Text} {s : Structure} (sound : Sound refs r)
    (found : r.structures.get? name = some s) : MembersKnown refs r.Defines s.members := by
  intro key member given
  apply sound.known (.structure name s) found
  apply List.mem_map_of_mem
  exact List.mem_map.2 ⟨(key, member), OrderedMap.get?_eq_some_iff.1 given, rfl⟩

/-- A later registry: it is sound, and all names are still defined. -/
structure Advanced (refs : Text → Prop) (r r' : Registry) : Prop where
  sound : Sound refs r'
  grown : ∀ name, r.Defines name → r'.Defines name

theorem Sound.advanced (sound : Sound refs r) : Advanced refs r r := ⟨sound, fun _ h => h⟩

theorem Advanced.trans (h : Advanced refs r r') (h' : Advanced refs r' r'') :
    Advanced refs r r'' :=
  ⟨h'.sound, fun name defined => h'.grown name (h.grown name defined)⟩

theorem Absorbs.written (absorbs : Absorbs r trace r') {name : Text}
    (named : Effect.Named trace name) : r'.Defines name :=
  (absorbs.defines name).2 (.inr named)

/-- The step of the invariant: taking in effects that keep to it. -/
theorem Absorbs.advanced (absorbs : Absorbs r trace r') (sound : Sound refs r)
    (ranked : ∀ e ∈ trace, e.Ranked)
    (known : ∀ e ∈ trace, ∀ type ∈ e.mentions, Known refs r'.Defines type) :
    Advanced refs r r' := by
  have grown : ∀ name, r.Defines name → r'.Defines name :=
    fun name defined => (absorbs.defines name).2 (.inl defined)
  refine ⟨⟨?_, ?_⟩, grown⟩
  · intro e held
    by_cases write : e.name?.isSome
    · rcases absorbs.entry e write held with traced | old
      · exact ranked e traced
      · exact sound.ranked e old
    · cases e <;> simp [Effect.name?] at write
      trivial
  · intro e held type mentioned
    by_cases write : e.name?.isSome
    · rcases absorbs.entry e write held with traced | old
      · exact known e traced type mentioned
      · exact (sound.known e old type mentioned).mono grown
    · cases e <;> simp [Effect.name?] at write
      cases mentioned

theorem Absorbs.structure_advanced {name : Text} {s : Structure}
    (absorbs : Absorbs r [.structure name s] r') (sound : Sound refs r)
    (ranked : Members.Ranked s.members) (known : MembersKnown refs r.Defines s.members) :
    Advanced refs r r' := by
  apply absorbs.advanced sound
  · intro e effect
    obtain rfl := List.mem_singleton.1 effect
    exact ranked
  · intro e effect type mentioned
    obtain rfl := List.mem_singleton.1 effect
    have grown := known.mono fun name defined => (absorbs.defines name).2 (.inl defined)
    exact grown.mentions type mentioned

end Registry

end ApiModel
