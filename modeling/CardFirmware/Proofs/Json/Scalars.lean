import CardFirmware.Json.Printer
import CardFirmware.Proofs.Text.Utf8

/-! Printed texts and numbers are read as what they were. A character of a text is written as its
UTF-8, after a backslash, or by its number, and is the same in every form (`readString_quoted`,
`textOfPieces_written`). A whole number is written in decimal digits (`readNumeral_digits`). -/

namespace CardFirmware.Json

open Text.Utf8 (encodeChar)

def printed (cs : List Char) : Bytes := cs.flatMap encodeChar

@[simp] theorem printed_nil : printed [] = [] := rfl

@[simp] theorem printed_cons (c : Char) (cs : List Char) :
    printed (c :: cs) = encodeChar c ++ printed cs := rfl

@[simp] theorem printed_append (as bs : List Char) :
    printed (as ++ bs) = printed as ++ printed bs := List.flatMap_append

theorem encode_ofList (cs : List Char) : Text.Utf8.encode (String.ofList cs) = printed cs := by
  rw [Text.Utf8.encode, String.toList_ofList, printed]

section Strings

def IsPlain (b : UInt8) : Prop := b ≠ 34 ∧ b ≠ 92 ∧ ¬b < 32

def written (c : Char) : List Piece :=
  if c.toNat < 32 ∧ c ∉ ['\x08', '\t', '\n', '\x0c', '\r'] then [.unit c.toNat]
  else (encodeChar c).map .byte

def prepend (pieces : List Piece) (r : List Piece × Bytes) : List Piece × Bytes :=
  (pieces ++ r.1, r.2)

theorem isPlain_iff {b : UInt8} :
    IsPlain b ↔ b.toNat ≠ 34 ∧ b.toNat ≠ 92 ∧ 32 ≤ b.toNat := by
  rw [IsPlain, UInt8.lt_iff_toNat_lt, Nat.not_lt, ← UInt8.toNat_inj.ne, ← UInt8.toNat_inj.ne]
  rfl

theorem isPlain_encodeChar {c : Char} (h : 32 ≤ c.toNat) (hquote : c ≠ '"') (hslash : c ≠ '\\') :
    ∀ b ∈ encodeChar c, IsPlain b := by
  have hquote : c.toNat ≠ 34 := fun h => hquote (Char.toNat_inj.mp h)
  have hslash : c.toNat ≠ 92 := fun h => hslash (Char.toNat_inj.mp h)
  have hspells := Text.Utf8.spells_encodeChar c
  have hlarge {b : UInt8} (hb : 0x80 ≤ b.toNat) : IsPlain b :=
    isPlain_iff.mpr ⟨by omega, by omega, by omega⟩
  generalize encodeChar c = bs at hspells
  generalize c.toNat = n at hspells h hquote hslash
  cases hspells with
  | one ha => exact List.forall_mem_singleton.mpr (isPlain_iff.mpr ⟨hquote, hslash, h⟩)
  | two hmin hmax hb =>
    have hb := Text.Utf8.isContinuation_iff.mp hb
    simp only [List.forall_mem_cons, List.not_mem_nil, false_implies, implies_true, and_true]
    exact ⟨hlarge (by omega), hlarge hb.1⟩
  | three hmin hmax hb hc =>
    have hb := Text.Utf8.isSecondOfThree_iff.mp hb
    have hc := Text.Utf8.isContinuation_iff.mp hc
    simp only [List.forall_mem_cons, List.not_mem_nil, false_implies, implies_true, and_true]
    exact ⟨hlarge (by omega), hlarge hb.1, hlarge hc.1⟩
  | four hmin hmax hb hc hd =>
    have hb := Text.Utf8.isSecondOfFour_iff.mp hb
    have hc := Text.Utf8.isContinuation_iff.mp hc
    have hd := Text.Utf8.isContinuation_iff.mp hd
    simp only [List.forall_mem_cons, List.not_mem_nil, false_implies, implies_true, and_true]
    exact ⟨hlarge (by omega), hlarge hb.1, hlarge hc.1, hlarge hd.1⟩

theorem readString_quote (rest : Bytes) : readString (34 :: rest) = some ([], rest) := by
  rw [readString.eq_def]
  rfl

theorem readString_short {e v : UInt8} (he : e ≠ 117) (hv : shortEscape e = some v) (rest : Bytes) :
    readString (92 :: e :: rest) = (readString rest).map (prepend [.byte v]) := by
  rw [readString.eq_def]
  simp only [beq_iff_eq, he, if_false, hv, show (92 : UInt8) ≠ 34 by decide, if_true]
  cases readString rest <;> rfl

theorem readString_unit {a b c d : UInt8} {u : Nat} (hu : hexUnit a b c d = some u)
    (rest : Bytes) :
    readString (92 :: 117 :: a :: b :: c :: d :: rest) =
      (readString rest).map (prepend [.unit u]) := by
  rw [readString.eq_def]
  simp only [beq_iff_eq, hu, if_false, show (92 : UInt8) ≠ 34 by decide, if_true]
  cases readString rest <;> rfl

theorem readString_plain {bs : Bytes} (h : ∀ b ∈ bs, IsPlain b) (rest : Bytes) :
    readString (bs ++ rest) = (readString rest).map (prepend (bs.map .byte)) := by
  induction bs with
  | nil =>
    rw [List.nil_append]
    cases readString rest <;> rfl
  | cons b bs ih =>
    obtain ⟨hb, hbs⟩ := List.forall_mem_cons.mp h
    obtain ⟨hquote, hslash, hlow⟩ := hb
    rw [List.cons_append, readString.eq_def]
    simp only [beq_iff_eq, hquote, hslash, hlow, if_false, ih hbs]
    cases readString rest <;> rfl

def controlDigits (n : Nat) : Bytes := printed (Text.Numeral.padLeft 2 '0' (Nat.toDigits 16 n))

theorem exists_controlDigits {n : Nat} (h : n < 32) :
    ∃ a b, controlDigits n = [a, b] ∧ hexUnit 48 48 a b = some n := by
  have hall : ∀ n < 32, (controlDigits n).length = 2 ∧
      hexUnit 48 48 ((controlDigits n).getD 0 0) ((controlDigits n).getD 1 0) = some n := by
    decide
  obtain ⟨hlen, hunit⟩ := hall n h
  obtain ⟨a, b, hab⟩ := List.length_eq_two.mp hlen
  rw [hab] at hunit
  exact ⟨a, b, hab, hunit⟩

theorem readString_escapeChar (c : Char) (rest : Bytes) :
    readString (printed (escapeChar c) ++ rest) = (readString rest).map (prepend (written c)) := by
  -- Seven characters have escapes of their own. Of the others the controls are given by number.
  by_cases hshort : c ∈ ['"', '\\', '\x08', '\x0c', '\n', '\r', '\t']
  · simp only [List.mem_cons, List.not_mem_nil, or_false] at hshort
    obtain rfl | rfl | rfl | rfl | rfl | rfl | rfl := hshort <;>
      exact readString_short (by decide) rfl rest
  simp only [List.mem_cons, List.not_mem_nil, or_false, not_or] at hshort
  obtain ⟨hquote, hslash, hback, hfeed, hline, hreturn, htab⟩ := hshort
  simp only [escapeChar, hquote, hslash, hback, hfeed, hline, hreturn, htab, or_self, if_false]
  split
  · next hcontrol =>
    obtain ⟨a, b, hdigits, hunit⟩ := exists_controlDigits hcontrol
    have hwritten : written c = [.unit c.toNat] := by
      simp [written, hcontrol, hback, hfeed, hline, hreturn, htab]
    have hprinted : printed ('\\' :: 'u' :: '0' :: '0' ::
        Text.Numeral.padLeft 2 '0' (Nat.toDigits 16 c.toNat)) = [92, 117, 48, 48, a, b] :=
      congrArg ([92, 117, 48, 48] ++ ·) hdigits
    rw [hwritten, hprinted]
    exact readString_unit hunit rest
  · next hcontrol =>
    have hwritten : written c = (encodeChar c).map .byte := by
      rw [written, if_neg fun h => hcontrol h.1]
    rw [hwritten, printed_cons, printed_nil, List.append_nil]
    exact readString_plain (isPlain_encodeChar (Nat.not_lt.mp hcontrol) hquote hslash) rest

theorem readString_quoted (s : String) (rest : Bytes) :
    readString (printed (s.toList.flatMap escapeChar ++ ['"']) ++ rest) =
      some (s.toList.flatMap written, rest) := by
  induction s.toList with
  | nil => exact readString_quote rest
  | cons c cs ih =>
    rw [List.flatMap_cons, List.append_assoc, printed_append, List.append_assoc,
      readString_escapeChar, ih]
    rfl

theorem utf8OfPieces_bytes (bs : Bytes) (pieces : List Piece) :
    utf8OfPieces (bs.map .byte ++ pieces) = (utf8OfPieces pieces).map (bs ++ ·) := by
  induction bs with
  | nil =>
    rw [List.map_nil, List.nil_append]
    cases utf8OfPieces pieces <;> rfl
  | cons b bs ih =>
    rw [List.map_cons, List.cons_append, utf8OfPieces, ih]
    cases utf8OfPieces pieces <;> rfl

theorem utf8OfPieces_written (c : Char) (pieces : List Piece) :
    utf8OfPieces (written c ++ pieces) = (utf8OfPieces pieces).map (encodeChar c ++ ·) := by
  unfold written
  split
  · next h =>
    -- A control is below all surrogates, so that its number is taken by itself.
    rw [List.singleton_append, utf8OfPieces.eq_def]
    simp only
    rw [if_neg (by omega), if_neg (by omega), Char.ofNat_toNat]
  · exact utf8OfPieces_bytes (encodeChar c) pieces

theorem textOfPieces_written (s : String) :
    textOfPieces (s.toList.flatMap written) = some s := by
  have hutf8 (cs : List Char) : utf8OfPieces (cs.flatMap written) = some (printed cs) := by
    induction cs with
    | nil => rfl
    | cons c cs ih =>
      rw [List.flatMap_cons, utf8OfPieces_written, ih, Option.map_some, printed_cons]
  rw [textOfPieces, hutf8, Option.bind_some, Text.Utf8.decode?_eq_some_iff]
  rfl

end Strings

section Numbers

def digits (n : Nat) : List Nat := (Nat.toDigits 10 n).map fun c => c.toNat - 48

def Ends (rest : Bytes) : Prop := ∀ b ∈ rest.head?, ¬isDigit b ∧ b ≠ 46 ∧ b ≠ 101 ∧ b ≠ 69

theorem encodeChar_digit {c : Char} (h : c.isDigit) :
    ∃ b, encodeChar c = [b] ∧ isDigit b ∧ b.toNat = c.toNat := by
  have hrange : 48 ≤ c.toNat ∧ c.toNat ≤ 57 := by
    simpa [Char.isDigit, UInt32.le_iff_toNat_le] using h
  have hbyte : (UInt8.ofNat c.toNat).toNat = c.toNat :=
    UInt8.toNat_ofNat_of_lt' (Nat.lt_of_le_of_lt hrange.2 (by decide))
  refine ⟨UInt8.ofNat c.toNat, ?_, ?_, hbyte⟩
  · rw [encodeChar, if_pos (by omega)]
  · rw [isDigit, hbyte]
    simpa using hrange

theorem readDigits_cons {b : UInt8} (hb : isDigit b) (rest : Bytes) :
    readDigits (b :: rest) = ((b.toNat - 48) :: (readDigits rest).1, (readDigits rest).2) := by
  simp [readDigits, hb]

theorem readDigits_ends {rest : Bytes} (h : Ends rest) : readDigits rest = ([], rest) := by
  cases rest with
  | nil => rfl
  | cons b rest => simp [readDigits, (h b rfl).1]

theorem readDigits_printed {cs : List Char} (hcs : ∀ c ∈ cs, c.isDigit) {rest : Bytes}
    (h : Ends rest) : readDigits (printed cs ++ rest) = (cs.map (·.toNat - 48), rest) := by
  induction cs with
  | nil => exact readDigits_ends h
  | cons c cs ih =>
    obtain ⟨hc, hcs⟩ := List.forall_mem_cons.mp hcs
    obtain ⟨b, hencoded, hdigit, hvalue⟩ := encodeChar_digit hc
    rw [printed_cons, hencoded, List.append_assoc, List.singleton_append, readDigits_cons hdigit,
      ih hcs, hvalue]
    rfl

theorem digits_of_lt {n : Nat} (h : n < 10) : digits n = [n] := by
  rw [digits, Nat.toDigits_of_lt_base h, List.map_singleton,
    Nat.toNat_digitChar_sub_48_of_lt_ten h]

theorem digits_of_le {n : Nat} (h : 10 ≤ n) : digits n = digits (n / 10) ++ [n % 10] := by
  have hlast : n % 10 < 10 := Nat.mod_lt n (by decide)
  rw [digits, Nat.toDigits_of_base_le (by decide) h, List.map_append, List.map_singleton,
    Nat.toNat_digitChar_sub_48_of_lt_ten hlast]
  rfl

theorem head?_digits {n : Nat} (h : 0 < n) : ∃ d, (digits n).head? = some d ∧ 0 < d := by
  induction n using Nat.strongRecOn with
  | ind n ih =>
    by_cases hsmall : n < 10
    · exact ⟨n, by rw [digits_of_lt hsmall, List.head?_singleton], h⟩
    · obtain ⟨d, hd, hpos⟩ := ih (n / 10) (by omega) (by omega)
      exact ⟨d, by rw [digits_of_le (Nat.not_lt.mp hsmall), List.head?_append, hd]; rfl, hpos⟩

theorem digits_ne_zero_cons (n d : Nat) (ds : List Nat) : digits n ≠ 0 :: d :: ds := by
  intro hdigits
  rcases Nat.eq_zero_or_pos n with rfl | hpos
  · rw [digits_of_lt (by decide)] at hdigits
    cases hdigits
  · obtain ⟨e, he, hepos⟩ := head?_digits hpos
    rw [hdigits] at he
    cases he
    exact absurd hepos (Nat.lt_irrefl 0)

theorem readNumeral_digits {n : Nat} {rest : Bytes} (h : Ends rest) :
    readNumeral false (printed (Nat.toDigits 10 n) ++ rest) =
      some (⟨false, digits n, [], none⟩, rest) := by
  have hread : readDigits (printed (Nat.toDigits 10 n) ++ rest) = (digits n, rest) :=
    readDigits_printed (fun c hc => Nat.isDigit_of_mem_toDigits (by decide) (by decide) hc) h
  have hfraction : readFraction rest = some ([], rest) := by
    cases rest with
    | nil => rfl
    | cons b rest => simp [readFraction, (h b rfl).2.1]
  have hexponent : readExponent rest = some (none, rest) := by
    cases rest with
    | nil => rfl
    | cons b rest => simp [readExponent, (h b rfl).2.2]
  unfold readNumeral
  rw [hread]
  split
  · next hempty => simp [digits] at hempty
  · next hzero => exact absurd (Prod.mk.inj hzero).1 (digits_ne_zero_cons n _ _)
  · next heq =>
    cases heq
    simp [hfraction, hexponent]

theorem ofDigits_digits (n : Nat) : Numeral.ofDigits (digits n) = n := by
  have h : Nat.ofDigitChars 10 (Nat.toDigits 10 n) 0 = n := Nat.ofDigitChars_ten_toDigits
  rw [Nat.ofDigitChars_eq_foldl] at h
  rw [Numeral.ofDigits, digits, List.foldl_map]
  simpa [Nat.mul_comm] using h

theorem int?_digits {n : Nat} (h : n < UInt64.size) :
    Numeral.int? ⟨false, digits n, [], none⟩ = some (n : Int) := by
  have hlen : (digits n).length ≤ 20 := by
    rw [digits, List.length_map, Nat.length_toDigits_le_iff (by decide) (by decide)]
    exact Nat.lt_trans h (by decide)
  simp [Numeral.int?, hlen, ofDigits_digits, h]

end Numbers

end CardFirmware.Json
