import ApiModel.Proofs.JsonScalars

/-! Reading JSON that was written. A value comes back as it was, whatever blanks the layout puts
into the text, if it holds no decimals, its keys are texts that differ, and no integer has more
digits than are read. -/
namespace ApiModel.Json

open Text

/-- Values that come back from their JSON text, unless an integer is too long. -/
inductive Exact : Value → Prop where
  | null : Exact .null
  | bool (b : Bool) : Exact (.bool b)
  | int (n : Int) : Exact (.int n)
  | str (s : Text) : Exact (.str s)
  | list {items : List Value} (inner : ∀ v ∈ items, Exact v) : Exact (.list items)
  | map {entries : List (Text × Value)} (distinct : (entries.map Prod.fst).Nodup)
      (inner : ∀ e ∈ entries, Exact e.2) : Exact (.ofEntries entries)

/-! What stands between values. -/

/-- Only blanks stand in front of a line. -/
def Layout.IsBlank (layout : Layout) : Prop :=
  ∀ indent ∈ layout.indent, ∀ c ∈ indent, isSpace c = true

theorem Layout.isBlank_blanks (width : Nat) : (Layout.blanks width).IsBlank := by
  rintro _ ⟨⟩ c listed
  rw [List.eq_of_mem_replicate listed]
  rfl

variable {layout : Layout} {gap rest : Text} {c : CodePoint} {level n : Nat}

theorem isSpace_of_mem_newline (blank : layout.IsBlank) (listed : c ∈ layout.newline level) :
    isSpace c = true := by
  unfold Layout.newline at listed
  split at listed
  · rename_i indent given
    rcases List.mem_cons.1 listed with rfl | listed
    · rfl
    · obtain ⟨l, repeated, inside⟩ := List.mem_flatten.1 listed
      rw [List.eq_of_mem_replicate repeated] at inside
      exact blank indent given c inside
  · cases listed

theorem between_eq (blank : layout.IsBlank) (level : Nat) :
    ∃ gap, layout.between level = .char ',' :: gap ∧ ∀ c ∈ gap, isSpace c = true := by
  unfold Layout.between
  split
  · exact ⟨_, rfl, fun c listed => isSpace_of_mem_newline blank listed⟩
  · exact ⟨[.char ' '], rfl, by decide⟩

theorem ends_newline (ended : ends rest = true) : ends (layout.newline level ++ rest) = true := by
  unfold Layout.newline
  split
  · rfl
  · exact ended

theorem skipSpace_append (blank : ∀ c ∈ gap, isSpace c = true) (visible : isSpace c = false) :
    skipSpace (gap ++ c :: rest) = c :: rest := by
  rw [skipSpace, List.dropWhile_append_of_pos blank]
  simp [visible]

/-! Starts of values. -/

theorem visible_of_isDigit (digit : c.isDigit = true) :
    isSpace c = false ∧ c ≠ .char ']' ∧ c ≠ .char '\ufeff' := by
  simp only [isSpace, Bool.or_eq_false_iff, decide_eq_false_iff_not]
  refine ⟨⟨⟨⟨?_, ?_⟩, ?_⟩, ?_⟩, ?_, ?_⟩ <;> (rintro rfl; cases digit)

theorem valueChars_eq_cons {v : Value} (plain : Exact v) (layout : Layout) (level : Nat) :
    ∃ c tail, valueChars layout level v = c :: tail ∧
      isSpace c = false ∧ c ≠ .char ']' ∧ c ≠ .char '\ufeff' := by
  have bracketed : ∀ opening closing items, ∃ tail,
      bracket layout level opening closing items = opening :: tail := by
    intro opening closing items
    cases items <;> exact ⟨_, rfl⟩
  cases plain with
  | null => exact ⟨.char 'n', _, rfl, by decide⟩
  | bool b =>
    cases b with
    | false => exact ⟨.char 'f', _, rfl, by decide⟩
    | true => exact ⟨.char 't', _, rfl, by decide⟩
  | int k =>
    obtain ⟨sign, c, tail, written, signed, digit⟩ := ofInt_unsigned k
    rcases signed with rfl | rfl
    · exact ⟨c, tail, written, visible_of_isDigit digit⟩
    · exact ⟨.char '-', c :: tail, written, by decide⟩
  | str s => exact ⟨.char '"', _, rfl, by decide⟩
  | @list items inner =>
    obtain ⟨tail, opened⟩ := bracketed '[' ']' (itemChars layout (level + 1) items)
    exact ⟨.char '[', tail, opened, by decide⟩
  | @map entries distinct inner =>
    obtain ⟨tail, opened⟩ := bracketed '\x7b' '\x7d'
      (entryChars layout (level + 1) (entries.map fun e => (.str e.1, e.2)))
    exact ⟨.char '\x7b', tail, opened, by decide⟩

/-! Rows of items. The two loops of the reader go through their items alike: one step reads an item
and either ends behind the closing character or goes on behind a comma. -/

theorem join_cons (separator text : Text) (texts : List Text) :
    ∃ behind, join separator (text :: texts) = text ++ behind := by
  cases texts with
  | nil => exact ⟨[], (List.append_nil text).symm⟩
  | cons next texts => exact ⟨separator ++ join separator (next :: texts), List.append_assoc ..⟩

section Row

variable {α : Type} {read : Nat → Text → Read (List α)} {chars : α → Text} {closing : CodePoint}

theorem read_join (blank : layout.IsBlank) {items : List α}
    (first : ∀ x ∈ items, ∃ c tail, chars x = c :: tail ∧ isSpace c = false)
    (last : ∀ x ∈ items, ∀ n, (chars x).length ≤ n →
      read (n + 1) (chars x ++ (gap ++ closing :: rest)) = .ok ([x], rest))
    (more : ∀ x ∈ items, ∀ n gap c text xs, (chars x).length ≤ n → (∀ c ∈ gap, isSpace c = true) →
      isSpace c = false → read n (c :: text) = .ok (xs, rest) →
      read (n + 1) (chars x ++ .char ',' :: (gap ++ c :: text)) = .ok (x :: xs, rest))
    (given : items ≠ []) (fuel : (join (layout.between level) (items.map chars)).length < n) :
    read n (join (layout.between level) (items.map chars) ++ (gap ++ closing :: rest)) =
      .ok (items, rest) := by
  induction items generalizing n with
  | nil => exact absurd rfl given
  | cons x items ih =>
    obtain ⟨n, rfl⟩ := Nat.exists_eq_succ_of_ne_zero (Nat.ne_zero_of_lt fuel)
    cases items with
    | nil => exact last x List.mem_cons_self n (Nat.le_of_lt_succ fuel)
    | cons y items =>
      obtain ⟨between, separated, spaces⟩ := between_eq blank level
      obtain ⟨behind, joined⟩ := join_cons (layout.between level) (chars y) (items.map chars)
      obtain ⟨c, tail, starts, visible⟩ := first y (List.mem_cons_of_mem _ List.mem_cons_self)
      have rowTail : join (layout.between level) ((y :: items).map chars) =
          c :: (tail ++ behind) := by
        rw [List.map_cons, joined, starts, List.cons_append]
      have row : join (layout.between level) ((x :: y :: items).map chars) =
          chars x ++ .char ',' :: (between ++ c :: (tail ++ behind)) := by
        rw [← rowTail, ← List.cons_append, ← separated, ← List.append_assoc]
        rfl
      have next := ih (n := n) (fun z listed => first z (List.mem_cons_of_mem _ listed))
        (fun z listed => last z (List.mem_cons_of_mem _ listed))
        (fun z listed => more z (List.mem_cons_of_mem _ listed)) (List.cons_ne_nil _ _)
      rw [rowTail, List.cons_append] at next
      rw [row] at fuel ⊢
      -- the comma takes a character, so what is left over of the fuel lasts for the rest of the row
      simp only [List.length_append, List.length_cons] at fuel next
      rw [List.append_assoc, List.cons_append, List.append_assoc, List.cons_append]
      exact more x List.mem_cons_self n between c _ _ (by omega) spaces visible (next (by omega))

end Row

/-! Lists and objects. -/

/-- A value comes back from its text, wherever that stands. -/
def ReadsBack (layout : Layout) (v : Value) : Prop :=
  ∀ n level rest, (valueChars layout level v).length ≤ n → ends rest = true →
    readValue n (valueChars layout level v ++ rest) = .ok (v, rest)

theorem itemChars_eq (layout : Layout) (level : Nat) (items : List Value) :
    itemChars layout level items = items.map (valueChars layout level) := by
  induction items with
  | nil => rfl
  | cons v items ih => rw [itemChars, ih, List.map_cons]

def memberChars (layout : Layout) (level : Nat) (e : Text × Value) : Text :=
  textChars e.1 ++ ": " ++ valueChars layout level e.2

theorem entryChars_eq (layout : Layout) (level : Nat) (entries : List (Text × Value)) :
    entryChars layout level (entries.map fun e => (.str e.1, e.2)) =
      entries.map (memberChars layout level) := by
  induction entries with
  | nil => rfl
  | cons e entries ih =>
    rw [List.map_cons, entryChars, ih, List.map_cons]
    rfl

theorem readItems_join (blank : layout.IsBlank) {items : List Value} (plain : ∀ v ∈ items, Exact v)
    (back : ∀ v ∈ items, ReadsBack layout v) (given : items ≠ []) (outer : Nat)
    (fuel : (join (layout.between level) (items.map (valueChars layout level))).length < n) :
    readItems n (join (layout.between level) (items.map (valueChars layout level)) ++
      (layout.newline outer ++ .char ']' :: rest)) = .ok (items, rest) := by
  refine read_join blank ?_ ?_ ?_ given fuel
  · intro v listed
    obtain ⟨c, tail, starts, visible, -⟩ := valueChars_eq_cons (plain v listed) layout level
    exact ⟨c, tail, starts, visible⟩
  · intro v listed n fuel
    rw [readItems, back v listed n level _ fuel (ends_newline rfl)]
    simp only [follow]
    rw [skipSpace_append (fun c => isSpace_of_mem_newline blank) rfl]
    rfl
  · intro v listed n gap c text items fuel spaces visible next
    rw [readItems, back v listed n level _ fuel rfl]
    change follow (readItems n (skipSpace (gap ++ c :: text))) _ = _
    rw [skipSpace_append spaces visible, next]
    rfl

theorem readMembers_key {e : Text × Value} (plain : Exact e.2)
    (back : ReadsBack layout e.2) (fuel : (memberChars layout level e).length ≤ n)
    (ended : ends rest = true) :
    readMembers (n + 1) (memberChars layout level e ++ rest) =
      match skipSpace rest with
      | .char '\x7d' :: rest => .ok ([e], rest)
      | .char ',' :: rest =>
        follow (readMembers n (skipSpace rest)) fun members rest => .ok (e :: members, rest)
      | rest => fail .comma rest := by
  obtain ⟨c, tail, starts, visible, -⟩ := valueChars_eq_cons plain layout level
  have read := back n level rest (by simp [memberChars] at fuel; omega) ended
  have written : memberChars layout level e ++ rest = .char '"' :: (e.1.flatMap escapeChar ++
      .char '"' :: .char ':' :: .char ' ' :: (valueChars layout level e.2 ++ rest)) := by
    simp only [memberChars, textChars, List.append_assoc]
    rfl
  have spaced : skipSpace (.char ' ' :: (valueChars layout level e.2 ++ rest)) =
      valueChars layout level e.2 ++ rest := by
    rw [starts]
    exact skipSpace_append (show ∀ c ∈ [CodePoint.char ' '], isSpace c = true by decide) visible
  rw [written, readMembers, readText_escaped]
  change follow (readValue n (skipSpace (.char ' ' :: (valueChars layout level e.2 ++ rest)))) _ = _
  rw [spaced, read]
  rfl

theorem readMembers_join (blank : layout.IsBlank) {entries : List (Text × Value)}
    (plain : ∀ e ∈ entries, Exact e.2) (back : ∀ e ∈ entries, ReadsBack layout e.2)
    (given : entries ≠ []) (outer : Nat)
    (fuel : (join (layout.between level) (entries.map (memberChars layout level))).length < n) :
    readMembers n (join (layout.between level) (entries.map (memberChars layout level)) ++
      (layout.newline outer ++ .char '\x7d' :: rest)) = .ok (entries, rest) := by
  refine read_join blank ?_ ?_ ?_ given fuel
  · intro e listed
    exact ⟨.char '"', _, rfl, rfl⟩
  · intro e listed n fuel
    rw [readMembers_key (plain e listed) (back e listed) fuel (ends_newline rfl)]
    rw [skipSpace_append (fun c => isSpace_of_mem_newline blank) rfl]
    rfl
  · intro e listed n gap c text entries fuel spaces visible next
    rw [readMembers_key (plain e listed) (back e listed) fuel rfl]
    change follow (readMembers n (skipSpace (gap ++ c :: text))) _ = _
    rw [skipSpace_append spaces visible, next]
    rfl

theorem bracket_append (opening closing : CodePoint) {texts : List Text} (given : texts ≠ []) :
    bracket layout level opening closing texts ++ rest = opening :: (layout.newline (level + 1) ++
      (join (layout.between (level + 1)) texts ++ (layout.newline level ++ closing :: rest))) := by
  cases texts with
  | nil => exact absurd rfl given
  | cons text texts => simp [bracket]

theorem length_join_lt {opening closing : CodePoint} {texts : List Text} (given : texts ≠ [])
    (fuel : (bracket layout level opening closing texts).length ≤ n + 1) :
    (join (layout.between (level + 1)) texts).length < n := by
  rw [← List.append_nil (bracket layout level opening closing texts),
    bracket_append opening closing given] at fuel
  simp only [List.length_append, List.length_cons] at fuel
  omega

theorem readValue_items (blank : layout.IsBlank) {items : List Value} (plain : ∀ v ∈ items, Exact v)
    (back : ∀ v ∈ items, ReadsBack layout v)
    (fuel : (valueChars layout level (.list items)).length ≤ n + 1) :
    readValue (n + 1) (valueChars layout level (.list items) ++ rest) =
      .ok (.list items, rest) := by
  cases items with
  | nil => rfl
  | cons v items =>
    rw [valueChars, itemChars_eq] at fuel ⊢
    have read : readItems n _ = .ok (v :: items, rest) :=
      readItems_join blank plain back (List.cons_ne_nil v items) level
        (length_join_lt (List.cons_ne_nil _ _) fuel)
    obtain ⟨c, tail, starts, visible, other, -⟩ :=
      valueChars_eq_cons (plain v List.mem_cons_self) layout (level + 1)
    obtain ⟨behind, joined⟩ := join_cons (layout.between (level + 1))
      (valueChars layout (level + 1) v) (items.map (valueChars layout (level + 1)))
    rw [List.map_cons] at read ⊢
    rw [bracket_append _ _ (List.cons_ne_nil _ _)]
    rw [joined, starts, List.cons_append, List.cons_append] at read ⊢
    rw [readValue, skipSpace_append (fun c => isSpace_of_mem_newline blank) visible]
    -- the first item does not look like the end of an empty list
    split
    · rename_i same
      cases same
      exact absurd rfl other
    · rw [read]
      rfl

theorem ofMembers_eq {entries : List (Text × Value)} (distinct : (entries.map Prod.fst).Nodup) :
    ofMembers entries = .ofEntries entries := by
  rw [ofMembers, OrderedMap.foldl_putEntry, OrderedMap.entries_ofList distinct]

theorem readValue_members (blank : layout.IsBlank) {entries : List (Text × Value)}
    (distinct : (entries.map Prod.fst).Nodup) (plain : ∀ e ∈ entries, Exact e.2)
    (back : ∀ e ∈ entries, ReadsBack layout e.2)
    (fuel : (valueChars layout level (.ofEntries entries)).length ≤ n + 1) :
    readValue (n + 1) (valueChars layout level (.ofEntries entries) ++ rest) =
      .ok (.ofEntries entries, rest) := by
  cases entries with
  | nil => rfl
  | cons e entries =>
    rw [Value.ofEntries, valueChars, entryChars_eq] at fuel ⊢
    have read : readMembers n _ = .ok (e :: entries, rest) :=
      readMembers_join blank plain back (List.cons_ne_nil e entries) level
        (length_join_lt (List.cons_ne_nil _ _) fuel)
    obtain ⟨behind, joined⟩ := join_cons (layout.between (level + 1))
      (memberChars layout (level + 1) e) (entries.map (memberChars layout (level + 1)))
    obtain ⟨tail, starts⟩ : ∃ tail, memberChars layout (level + 1) e = .char '"' :: tail := ⟨_, rfl⟩
    rw [List.map_cons] at read ⊢
    rw [bracket_append _ _ (List.cons_ne_nil _ _)]
    rw [joined, starts, List.cons_append, List.cons_append] at read ⊢
    rw [readValue, skipSpace_append (fun c => isSpace_of_mem_newline blank) rfl]
    change follow (readMembers n _) _ = _
    rw [read]
    exact congrArg (fun v => Except.ok (v, rest)) (ofMembers_eq distinct)

theorem hasLong_of_mem {items : List Value} (short : Value.hasLongItem items = false) {v : Value}
    (listed : v ∈ items) : v.hasLong = false := by
  induction items with
  | nil => cases listed
  | cons w items ih =>
    rw [Value.hasLongItem, Bool.or_eq_false_iff] at short
    rcases List.mem_cons.1 listed with rfl | listed
    · exact short.1
    · exact ih short.2 listed

theorem hasLong_of_entry {entries : List (Text × Value)}
    (short : (Value.ofEntries entries).hasLong = false) {e : Text × Value} (listed : e ∈ entries) :
    e.2.hasLong = false := by
  rw [Value.ofEntries, Value.hasLong] at short
  induction entries with
  | nil => cases listed
  | cons first entries ih =>
    rw [List.map_cons, Value.hasLongEntry, Bool.or_eq_false_iff, Bool.or_eq_false_iff] at short
    rcases List.mem_cons.1 listed with rfl | listed
    · exact short.1.2
    · exact ih short.2 listed

theorem readsBack_of_step {v : Value} (plain : Exact v)
    (step : ∀ n level rest, (valueChars layout level v).length ≤ n + 1 → ends rest = true →
      readValue (n + 1) (valueChars layout level v ++ rest) = .ok (v, rest)) :
    ReadsBack layout v := by
  intro n level rest fuel ended
  obtain ⟨c, tail, starts, -⟩ := valueChars_eq_cons plain layout level
  cases n with
  | zero => simp [starts] at fuel
  | succ n => exact step n level rest fuel ended

/-- Any value that holds no decimal comes back from its text, unless an integer is too long. -/
theorem readsBack_of_exact (blank : layout.IsBlank) {v : Value} (plain : Exact v)
    (short : v.hasLong = false) : ReadsBack layout v := by
  induction plain with
  | null => exact readsBack_of_step .null fun n level rest _ _ => rfl
  | bool b => exact readsBack_of_step (.bool b) fun n level rest _ _ => by cases b <;> rfl
  | int k =>
    refine readsBack_of_step (.int k) fun n level rest _ ended => ?_
    rw [Value.hasLong] at short
    exact readValue_ofInt n short ended
  | str s => exact readsBack_of_step (.str s) fun n level rest _ _ => readValue_textChars n s
  | list inner ih =>
    rw [Value.hasLong] at short
    exact readsBack_of_step (.list inner) fun n level rest fuel _ =>
      readValue_items blank inner (fun w listed => ih w listed (hasLong_of_mem short listed)) fuel
  | map distinct inner ih =>
    exact readsBack_of_step (.map distinct inner) fun n level rest fuel _ =>
      readValue_members blank distinct inner
        (fun e listed => ih e listed (hasLong_of_entry short listed)) fuel

theorem parse_write (blank : layout.IsBlank) {v : Value} (plain : Exact v)
    (short : v.hasLong = false) :
    parse (write layout v) = .ok v := by
  obtain ⟨c, tail, starts, visible, -, unmarked⟩ := valueChars_eq_cons plain layout 0
  have read := readsBack_of_exact blank plain short (2 * (valueChars layout 0 v).length + 2) 0 []
    (by omega) rfl
  rw [List.append_nil] at read
  have start : skipSpace (valueChars layout 0 v) = valueChars layout 0 v := by
    rw [starts]
    exact skipSpace_append (show ∀ c ∈ [], isSpace c = true by simp) visible
  unfold parse write
  split
  · rename_i marked
    rw [starts] at marked
    cases marked
    exact absurd rfl unmarked
  · rw [start, read]
    rfl

end ApiModel.Json
