import ApiModel.Json.Reader
import ApiModel.Json.Writer
import ApiModel.Proofs.EmittedName

/-! Numbers and texts of JSON that are read back as they were written. -/
namespace ApiModel

open Number

theorem CodePoint.ofNat_toNat (c : CodePoint) : CodePoint.ofNat c.toNat = c := by
  cases c with
  | char c =>
    have valid := c.valid
    simp only [UInt32.isValidChar, Nat.isValidChar] at valid
    rw [CodePoint.ofNat, dif_neg, toNat, Char.ofNat_toNat]
    simp only [toNat, Char.toNat]
    omega
  | half offset =>
    have bound := offset.isLt
    rw [CodePoint.ofNat, dif_pos (by simp only [toNat]; omega)]
    simp [toNat]

/-! Numbers. -/

namespace Text

theorem ofNat_eq (n : Nat) : ofNat n = (Nat.toDigits 10 n).map .char := by
  rw [ofNat, ofString, Nat.toString_eq_ofList_toDigits, String.toList_ofList]

theorem natOfChars_ofNat (n : Nat) : natOfChars (ofNat n) = n := by
  rw [ofNat_eq, natOfChars, ofDigits, List.map_map, List.foldl_map]
  exact Nat.ofDigitChars_ten_toDigits

theorem length_ofNat_le_iff {n k : Nat} (positive : 0 < k) :
    (ofNat n).length ≤ k ↔ n < tenTo k := by
  rw [ofNat_eq, List.length_map]
  exact Nat.length_toDigits_le_iff (by decide) positive

theorem ofNat_eq_cons (n : Nat) : ∃ c rest, ofNat n = c :: rest ∧ (c = .char '0' → n = 0) := by
  induction n using Nat.strongRecOn with
  | ind n ih =>
    rcases Nat.lt_or_ge n 10 with small | large
    · refine ⟨.char n.digitChar, [], ?_, ?_⟩
      · rw [ofNat_eq, Nat.toDigits_of_lt_base small]
        rfl
      · clear ih
        revert n
        decide
    · obtain ⟨c, rest, written, zero⟩ := ih (n / 10) (by omega)
      refine ⟨c, rest ++ [.char (n % 10).digitChar], ?_, ?_⟩
      · rw [ofNat_eq] at written ⊢
        rw [Nat.toDigits_of_base_le (by decide) large, List.map_append, written]
        rfl
      · intro same
        have := zero same
        omega

theorem ofInt_ofNat (n : Nat) : ofInt (.ofNat n) = ofNat n := rfl

theorem ofInt_negSucc (n : Nat) : ofInt (.negSucc n) = .char '-' :: ofNat (n + 1) := by
  change ofString ("-" ++ toString (n + 1)) = _
  rw [ofString, String.toList_append, List.map_append]
  rfl

end Text

namespace Json

open Text

/-- Whether characters may stand behind a number: none of them goes on with it. -/
def ends (rest : Text) : Bool :=
  rest.head?.all fun (c : CodePoint) => !(c.isDigit || c = '.' || c = 'e' || c = 'E')

variable {rest : Text}

theorem ends_cons {c : CodePoint} : ends (c :: rest) = true ↔
    c.isDigit = false ∧ c ≠ .char '.' ∧ c ≠ .char 'e' ∧ c ≠ .char 'E' := by
  simp [ends, and_assoc]

theorem spanDigits_ofNat (n : Nat) (h : ends rest = true) :
    spanDigits (ofNat n ++ rest) = (ofNat n, rest) := by
  have digits : ∀ c ∈ ofNat n, c.isDigit = true := fun c listed => isDigit_of_mem_ofNat listed
  rw [spanDigits, List.takeWhile_append_of_pos digits, List.dropWhile_append_of_pos digits]
  cases rest with
  | nil => simp
  | cons c tail => simp [(ends_cons.1 h).1]

theorem wholePart_ofNat (n : Nat) (h : ends rest = true) :
    wholePart (ofNat n ++ rest) = some (ofNat n, rest) := by
  obtain ⟨c, tail, written, zero⟩ := ofNat_eq_cons n
  have digit : c.isDigit = true := isDigit_of_mem_ofNat (n := n) (by simp [written])
  by_cases first : c = .char '0'
  · rw [zero first]
    rfl
  · rw [← spanDigits_ofNat n h, written, List.cons_append, wholePart, if_pos digit]
    exact first

theorem fractionPart_of_ends (h : ends rest = true) : fractionPart rest = ([], rest) := by
  unfold fractionPart
  split
  · cases h
  · rfl

theorem exponentPart_of_ends (h : ends rest = true) : exponentPart rest = (none, rest) := by
  cases rest with
  | nil => rfl
  | cons c tail =>
    obtain ⟨-, -, small, capital⟩ := ends_cons.1 h
    rw [exponentPart, if_neg (not_or.2 ⟨small, capital⟩)]

theorem readNumber_ofInt {n : Int} (short : isLong n = false) (h : ends rest = true) :
    readNumber (ofInt n ++ rest) = .ok (.int n, rest) := by
  have fits : ¬ digitLimit < (ofNat n.natAbs).length := by
    rw [isLong, decide_eq_false_iff_not, Nat.not_le] at short
    exact Nat.not_lt.2 ((length_ofNat_le_iff (Nat.succ_pos _)).2 short)
  have whole := wholePart_ofNat n.natAbs h
  have value := natOfChars_ofNat n.natAbs
  cases n with
  | ofNat k =>
    obtain ⟨c, tail, written, -⟩ := ofNat_eq_cons k
    have unsigned : c ≠ .char '-' := by
      rintro rfl
      cases isDigit_of_mem_ofNat (n := k) (written ▸ List.mem_cons_self)
    rw [show (Int.ofNat k).natAbs = k from rfl, written] at fits whole value
    rw [List.length_cons] at fits
    rw [List.cons_append] at whole
    rw [ofInt_ofNat, written, List.cons_append]
    unfold readNumber
    simp [unsigned, whole, fractionPart_of_ends h, exponentPart_of_ends h, fits, value]
  | negSucc k =>
    rw [Int.natAbs_negSucc] at fits whole value
    rw [ofInt_negSucc, List.cons_append]
    unfold readNumber
    simp [whole, fractionPart_of_ends h, exponentPart_of_ends h, fits, value, Int.negSucc_eq]

/-! Texts. -/

theorem hex_control : ∀ n < 32,
    Text.hex 4 n = [.char '0', .char '0', .char (n / 16).digitChar, .char (n % 16).digitChar] ∧
      hex4? '0' '0' (n / 16).digitChar (n % 16).digitChar = some (.ofNat n) := by
  decide

theorem readText_plain (start : Nat) {c : CodePoint} (rest : Text) (quote : c ≠ .char '"')
    (backslash : c ≠ .char '\\') (printed : ¬ c.toNat < 32) :
    readText start (c :: rest) = prepend c (readText start rest) := by
  rw [readText, if_neg printed]
  all_goals simp [quote, backslash]

theorem readText_letter (start : Nat) {letter c : CodePoint} (rest : Text)
    (stands : escaped? letter = some c) :
    readText start ('\\' :: letter :: rest) = prepend c (readText start rest) := by
  have other : letter ≠ .char 'u' := by
    rintro rfl
    cases stands
  rw [readText, stands]
  all_goals simp [other]

theorem readText_control (start : Nat) {c : CodePoint} (control : c.toNat < 32) (next : CodePoint)
    (rest : Text) :
    readText start (.char '\\' :: .char 'u' :: Text.hex 4 c.toNat ++ next :: rest) =
      prepend c (readText start (next :: rest)) := by
  obtain ⟨written, value⟩ := hex_control c.toNat control
  have low : c.isHigh = false := by
    simp only [CodePoint.isHigh, Bool.and_eq_false_iff, decide_eq_false_iff_not]
    omega
  rw [CodePoint.ofNat_toNat] at value
  rw [written]
  simp only [List.cons_append, List.nil_append]
  rw [readText, value]
  simp [low]

theorem escapeChar_cases (c : CodePoint) :
    (∃ letter, escapeChar c = ['\\', letter] ∧ escaped? letter = some c) ∨
      escapeChar c = .char '\\' :: .char 'u' :: Text.hex 4 c.toNat ∧ c.toNat < 32 ∨
      escapeChar c = [c] ∧ c ≠ .char '"' ∧ c ≠ .char '\\' ∧ ¬ c.toNat < 32 := by
  fun_cases escapeChar c with
  | case8 _ _ _ _ _ _ _ control => exact .inr (.inl ⟨rfl, control⟩)
  | case9 quote backslash _ _ _ _ _ printed => exact .inr (.inr ⟨rfl, quote, backslash, printed⟩)
  | _ =>
    subst_vars
    exact .inl ⟨_, rfl, rfl⟩

theorem readText_escapeChar (start : Nat) (c : CodePoint) (next : CodePoint) (rest : Text) :
    readText start (escapeChar c ++ next :: rest) = prepend c (readText start (next :: rest)) := by
  rcases escapeChar_cases c with ⟨letter, written, stands⟩ | ⟨written, control⟩ |
    ⟨written, quote, backslash, printed⟩
  · rw [written]
    exact readText_letter start _ stands
  · rw [written]
    exact readText_control start control next rest
  · rw [written]
    exact readText_plain start _ quote backslash printed

theorem readText_escaped (start : Nat) (text rest : Text) :
    readText start (text.flatMap escapeChar ++ .char '"' :: rest) = .ok (text, rest) := by
  induction text with
  | nil => exact readText_quote start rest
  | cons c tail ih =>
    rw [List.flatMap_cons, List.append_assoc]
    cases behind : tail.flatMap escapeChar ++ .char '"' :: rest with
    | nil => simp at behind
    | cons next more =>
      rw [readText_escapeChar, ← behind, ih]
      rfl

/-! Both as values. -/

theorem ofInt_unsigned (k : Int) : ∃ sign c tail, ofInt k = sign ++ c :: tail ∧
    (sign = [] ∨ sign = [.char '-']) ∧ c.isDigit = true := by
  cases k with
  | ofNat k =>
    obtain ⟨c, tail, written, -⟩ := ofNat_eq_cons k
    exact ⟨[], c, tail, written, .inl rfl, isDigit_of_mem_ofNat (n := k) (by simp [written])⟩
  | negSucc k =>
    obtain ⟨c, tail, written, -⟩ := ofNat_eq_cons (k + 1)
    refine ⟨[.char '-'], c, tail, ?_, .inr rfl,
      isDigit_of_mem_ofNat (n := k + 1) (by simp [written])⟩
    rw [ofInt_negSucc, written]
    rfl

theorem readScalar_ofInt {k : Int} (short : isLong k = false) (ended : ends rest = true) :
    readScalar (ofInt k ++ rest) = .ok (.int k, rest) := by
  rw [← readNumber_ofInt short ended]
  obtain ⟨sign, c, tail, written, signed, digit⟩ := ofInt_unsigned k
  have skip : ∀ d lead cs, d.isDigit = false → dropLeading? (d :: lead) (c :: cs) = none := by
    intro d lead cs letter
    rw [dropLeading?, if_neg]
    rintro rfl
    rw [digit] at letter
    cases letter
  have word : ∀ w ∈ words, dropLeading? w.1 (ofInt k ++ rest) = none := by
    rw [written]
    simp only [words, List.forall_mem_cons]
    -- one word has a sign, but no digit behind it
    rcases signed with rfl | rfl
    · exact ⟨skip _ _ _ rfl, skip _ _ _ rfl, skip _ _ _ rfl, skip _ _ _ rfl, skip _ _ _ rfl,
        skip _ _ _ rfl, nofun⟩
    · exact ⟨rfl, rfl, rfl, rfl, rfl, skip _ _ _ rfl, nofun⟩
  have noWord : (words.findSome? fun w =>
      (dropLeading? w.1 (ofInt k ++ rest)).map fun rest => (w.2, rest)) = none := by
    rw [List.findSome?_eq_none_iff]
    intro w listed
    rw [word w listed]
    rfl
  rw [readScalar, noWord]

theorem readValue_ofInt (n : Nat) {k : Int} (short : isLong k = false) (ended : ends rest = true) :
    readValue (n + 1) (ofInt k ++ rest) = .ok (.int k, rest) := by
  rw [← readScalar_ofInt short ended]
  obtain ⟨sign, c, tail, written, signed, digit⟩ := ofInt_unsigned k
  rw [written]
  rcases signed with rfl | rfl
  · rw [List.nil_append, List.cons_append, readValue]
    all_goals
      rintro _ ⟨⟩
      cases digit
  · rfl

theorem readValue_textChars (n : Nat) (text : Text) :
    readValue (n + 1) (textChars text ++ rest) = .ok (.str text, rest) := by
  have written : textChars text ++ rest =
      .char '"' :: (text.flatMap escapeChar ++ .char '"' :: rest) := by
    rw [textChars, List.append_assoc, List.append_assoc]
    rfl
  rw [written, readValue, readText_escaped]
  rfl

end Json

end ApiModel
