import CardFirmware.Proofs.Json.Scalars
import Mathlib.Data.List.DropRight
import Mathlib.Data.List.Forall2

/-! Values printed over several lines are read as what they were. The text of a value determines
what is read, and what follows it stays (`Reads`); so do the texts of arrays and objects if those of
their items do. -/

namespace CardFirmware.Json

section Blanks

variable {fuel : Nat} {a b : Bytes}

theorem readValue_congr (h : skipBlank a = skipBlank b) : readValue fuel a = readValue fuel b := by
  cases fuel with
  | zero => rfl
  | succ fuel => rw [readValue, readValue, h]

theorem readElements_congr (h : skipBlank a = skipBlank b) :
    readElements fuel a = readElements fuel b := by
  cases fuel with
  | zero => rfl
  | succ fuel => rw [readElements, readElements, readValue_congr h]

theorem readMembers_congr (h : skipBlank a = skipBlank b) :
    readMembers fuel a = readMembers fuel b := by
  cases fuel with
  | zero => rfl
  | succ fuel => rw [readMembers, readMembers, h]

theorem skipBlank_newLine (level : Nat) (b : Bytes) :
    skipBlank (printed (newLine level) ++ b) = skipBlank b := by
  have hspaces (n : Nat) : skipBlank (printed (List.replicate n ' ') ++ b) = skipBlank b := by
    induction n with
    | zero => rfl
    | succ n ih => exact ih
  exact hspaces (2 * level)

theorem ends_newLine (level : Nat) (b : Bytes) : Ends (printed (newLine level) ++ b) := by
  intro c hc
  cases hc
  decide

theorem ends_comma (b : Bytes) : Ends (44 :: b) := by
  intro c hc
  cases hc
  decide

end Blanks

section Steps

variable {fuel : Nat} {b rest : Bytes} {x : Syntax} {key : List Piece}

theorem exists_fuel {c : UInt8} (h : 2 * (c :: b).length ≤ fuel) :
    ∃ k, fuel = k + 1 ∧ 2 * b.length < k := by
  rw [List.length_cons] at h
  exact ⟨fuel - 1, by omega, by omega⟩

theorem readValue_string (fuel : Nat) (b : Bytes) :
    readValue (fuel + 1) (34 :: b) = (readString b).map fun r => (.string r.1, r.2) := by
  have hquote : skipBlank (34 :: b) = 34 :: b := rfl
  rw [readValue, hquote]
  rfl

theorem readValue_number {c : UInt8} {n : Numeral} (hc : isDigit c)
    (h : readNumeral false (c :: b) = some (n, rest)) :
    readValue (fuel + 1) (c :: b) = some (.number n, rest) := by
  have hrange : 48 ≤ c.toNat ∧ c.toNat ≤ 57 := by simpa [isDigit] using hc
  have hne {d : UInt8} (hd : d.toNat < 48 ∨ 57 < d.toNat) : c ≠ d := by
    rintro rfl
    omega
  have hskip : skipBlank (c :: b) = c :: b := by
    rw [skipBlank, List.dropWhile_cons, if_neg]
    simp [isBlank, hne]
  rw [readValue, hskip]
  simp [hc, h, hne]

theorem readElements_last {after : Bytes} (hvalue : readValue fuel b = some (x, after))
    (hafter : skipBlank after = 93 :: rest) : readElements (fuel + 1) b = some ([x], rest) := by
  rw [readElements, hvalue]
  simp [hafter]

theorem readElements_more {after : Bytes} {r : List Syntax × Bytes}
    (hvalue : readValue fuel b = some (x, after)) (hafter : skipBlank after = 44 :: rest)
    (hmore : readElements fuel rest = some r) :
    readElements (fuel + 1) b = some (x :: r.1, r.2) := by
  rw [readElements, hvalue]
  simp [hafter, hmore]

theorem readMembers_last {after c : Bytes} (hkey : readString b = some (key, 58 :: c))
    (hvalue : readValue fuel c = some (x, after)) (hafter : skipBlank after = 125 :: rest) :
    readMembers (fuel + 1) (34 :: b) = some ([(key, x)], rest) := by
  have hquote : skipBlank (34 :: b) = 34 :: b := rfl
  have hcolon : skipBlank (58 :: c) = 58 :: c := rfl
  rw [readMembers, hquote]
  simp [hkey, hcolon, hvalue, hafter]

theorem readMembers_more {after c : Bytes} {r : List (List Piece × Syntax) × Bytes}
    (hkey : readString b = some (key, 58 :: c)) (hvalue : readValue fuel c = some (x, after))
    (hafter : skipBlank after = 44 :: rest) (hmore : readMembers fuel rest = some r) :
    readMembers (fuel + 1) (34 :: b) = some ((key, x) :: r.1, r.2) := by
  have hquote : skipBlank (34 :: b) = 34 :: b := rfl
  have hcolon : skipBlank (58 :: c) = 58 :: c := rfl
  rw [readMembers, hquote]
  simp [hkey, hcolon, hvalue, hafter, hmore]

theorem skipBlank_of_readElements {r : List Syntax × Bytes} (h : readElements fuel b = some r) :
    ∃ c after, skipBlank b = c :: after ∧ c ≠ 93 := by
  match fuel, h with
  | fuel + 1, h =>
    rw [readElements, Option.bind_eq_bind, Option.bind_eq_some_iff] at h
    obtain ⟨v, hvalue, -⟩ := h
    match fuel, hvalue with
    | fuel + 1, hvalue =>
      rw [readValue] at hvalue
      match hskip : skipBlank b, hvalue with
      | c :: after, hvalue =>
        refine ⟨c, after, rfl, ?_⟩
        rintro rfl
        cases hvalue

theorem readValue_array {r : List Syntax × Bytes} (h : readElements fuel b = some r) :
    readValue (fuel + 1) (91 :: b) = some (.array r.1, r.2) := by
  obtain ⟨c, after, hskip, hc⟩ := skipBlank_of_readElements h
  have hbracket : skipBlank (91 :: b) = 91 :: b := rfl
  have hsame : readElements fuel (c :: after) = some r := by
    rw [← hskip, ← h]
    exact readElements_congr (List.dropWhile_idempotent _ b)
  rw [readValue, hbracket]
  simp [isDigit, hskip, hc, hsame]

theorem readValue_object {r : List (List Piece × Syntax) × Bytes}
    (h : readMembers fuel (34 :: b) = some r) (hb : skipBlank a = 34 :: b) :
    readValue (fuel + 1) (123 :: a) = some (.object r.1, r.2) := by
  have hbrace : skipBlank (123 :: a) = 123 :: a := rfl
  rw [readValue, hbrace]
  simp [isDigit, hb, h]

end Steps

/-- Reading the text of `v` gives `x`, unless what follows goes on a number. Two calls for each byte
are enough: one for the value and one for the item that it is. -/
def Reads (v : Json) (x : Syntax) : Prop :=
  ∀ level fuel rest, 2 * (printed (pretty level v)).length ≤ fuel → Ends rest →
    readValue fuel (printed (pretty level v) ++ rest) = some (x, rest)

def ReadsMember (m : String × Json) (y : List Piece × Syntax) : Prop :=
  m.1.toList.flatMap written = y.1 ∧ Reads m.2 y.2

theorem reads_string (s : String) : Reads (.string s) (.string (s.toList.flatMap written)) := by
  intro level fuel rest hfuel hends
  have hprinted : printed (pretty level (.string s)) =
      34 :: printed (s.toList.flatMap escapeChar ++ ['"']) := rfl
  rw [hprinted] at hfuel ⊢
  obtain ⟨fuel, rfl, -⟩ := exists_fuel hfuel
  rw [List.cons_append, readValue_string, readString_quoted]
  rfl

theorem reads_int (n : Nat) : Reads (.int n) (.number ⟨false, digits n, [], none⟩) := by
  intro level fuel rest hfuel hends
  have hnumeral := readNumeral_digits (n := n) hends
  have hprinted : printed (pretty level (.int n)) = printed (Nat.toDigits 10 n) := rfl
  rw [hprinted] at hfuel ⊢
  cases hchars : Nat.toDigits 10 n with
  | nil => exact absurd hchars Nat.toDigits_ne_nil
  | cons c cs =>
    have hmem : c ∈ Nat.toDigits 10 n := by simp [hchars]
    obtain ⟨b, hencoded, hdigit, -⟩ :=
      encodeChar_digit (Nat.isDigit_of_mem_toDigits (by decide) (by decide) hmem)
    rw [hchars, printed_cons, hencoded, List.singleton_append] at hfuel hnumeral
    obtain ⟨fuel, rfl, -⟩ := exists_fuel hfuel
    rw [printed_cons, hencoded, List.singleton_append]
    exact readValue_number hdigit hnumeral

section Lines

variable (level : Nat)

theorem printed_items_nil : printed (prettyItems level []) = printed (newLine level) ++ [93] := by
  rw [prettyItems, printed_append]
  rfl

theorem printed_items_cons (v : Json) (vs : List Json) :
    printed (prettyItems level (v :: vs)) = 44 :: (printed (newLine (level + 1)) ++
      (printed (pretty (level + 1) v) ++ printed (prettyItems level vs))) := by
  rw [prettyItems, printed_append, List.cons_append, printed_cons, printed_append]
  simp only [List.append_assoc]
  rfl

theorem printed_array (v : Json) (vs : List Json) :
    printed (pretty level (.array (v :: vs))) = 91 :: (printed (newLine (level + 1)) ++
      (printed (pretty (level + 1) v) ++ printed (prettyItems level vs))) := by
  rw [pretty, printed_append, List.cons_append, printed_cons, printed_append]
  simp only [List.append_assoc]
  rfl

theorem printed_members_nil :
    printed (prettyMembers level []) = printed (newLine level) ++ [125] := by
  rw [prettyMembers, printed_append]
  rfl

def memberText (level : Nat) (m : String × Json) : Bytes :=
  printed (m.1.toList.flatMap escapeChar ++ ['"']) ++
    58 :: 32 :: printed (pretty (level + 1) m.2)

theorem printed_members_cons (m : String × Json) (ms : List (String × Json)) :
    printed (prettyMembers level (m :: ms)) = 44 :: (printed (newLine (level + 1)) ++
      34 :: (memberText level m ++ printed (prettyMembers level ms))) := by
  rw [prettyMembers, printed_append, printed_append, List.cons_append, printed_cons, printed_append,
    quoted, List.cons_append, printed_cons, memberText, printed_cons, printed_cons]
  simp only [List.append_assoc, List.cons_append]
  rfl

theorem printed_object (m : String × Json) (ms : List (String × Json)) :
    printed (pretty level (.object (m :: ms))) = 123 :: (printed (newLine (level + 1)) ++
      34 :: (memberText level m ++ printed (prettyMembers level ms))) := by
  rw [pretty, printed_append, printed_append, List.cons_append, printed_cons, printed_append,
    quoted, List.cons_append, printed_cons, memberText, printed_cons, printed_cons]
  simp only [List.append_assoc, List.cons_append]
  rfl

end Lines

theorem readElements_printed (level fuel : Nat) (rest : Bytes) {vs : List Json}
    {xs : List Syntax} (hvs : List.Forall₂ Reads vs xs) {v : Json} {x : Syntax} (hv : Reads v x)
    (hfuel : 2 * (printed (pretty (level + 1) v) ++ printed (prettyItems level vs)).length ≤
      fuel + 1) :
    readElements (fuel + 1) (printed (pretty (level + 1) v) ++ (printed (prettyItems level vs) ++
      rest)) = some (x :: xs, rest) := by
  -- The induction is on the items after the first; the comma before each pays for its calls.
  induction hvs generalizing v x fuel with
  | nil =>
    rw [printed_items_nil, List.length_append, List.length_append, List.length_singleton] at hfuel
    rw [printed_items_nil, List.append_assoc]
    refine readElements_last (hv _ _ _ (by omega) (ends_newLine level _)) ?_
    rw [skipBlank_newLine]
    rfl
  | @cons w y ws ys hw hws ih =>
    rw [printed_items_cons, List.length_append, List.length_cons, List.length_append] at hfuel
    rw [printed_items_cons, List.cons_append, List.append_assoc, List.append_assoc]
    obtain ⟨fuel, rfl⟩ : ∃ k, fuel = k + 1 := ⟨fuel - 1, by omega⟩
    have hmore := ih fuel hw (by omega)
    rw [← readElements_congr (skipBlank_newLine (level + 1) _)] at hmore
    exact readElements_more (hv _ _ _ (by omega) (ends_comma _)) rfl hmore

theorem reads_array {v : Json} {x : Syntax} {vs : List Json} {xs : List Syntax} (hv : Reads v x)
    (hvs : List.Forall₂ Reads vs xs) : Reads (.array (v :: vs)) (.array (x :: xs)) := by
  intro level fuel rest hfuel hends
  rw [printed_array] at hfuel ⊢
  obtain ⟨fuel, rfl, hroom⟩ := exists_fuel hfuel
  rw [List.length_append] at hroom
  obtain ⟨fuel, rfl⟩ : ∃ k, fuel = k + 1 := ⟨fuel - 1, by omega⟩
  have helements := readElements_printed level fuel rest hvs hv (by omega)
  rw [← readElements_congr (skipBlank_newLine (level + 1) _)] at helements
  rw [List.cons_append, List.append_assoc, List.append_assoc]
  exact readValue_array helements

theorem readString_memberText {m : String × Json} {y : List Piece × Syntax}
    (hm : ReadsMember m y) (level : Nat) (after : Bytes) :
    readString (memberText level m ++ after) =
      some (y.1, 58 :: 32 :: (printed (pretty (level + 1) m.2) ++ after)) := by
  rw [memberText, List.append_assoc, readString_quoted, hm.1]
  rfl

theorem readValue_member {m : String × Json} {y : List Piece × Syntax} (hm : ReadsMember m y)
    {level fuel : Nat} {after : Bytes} (hfuel : 2 * (memberText level m).length ≤ fuel)
    (hends : Ends after) :
    readValue fuel (32 :: (printed (pretty (level + 1) m.2) ++ after)) = some (y.2, after) := by
  rw [memberText, List.length_append, List.length_cons, List.length_cons] at hfuel
  have hspace (b : Bytes) : skipBlank (32 :: b) = skipBlank b := rfl
  rw [readValue_congr (hspace _)]
  exact hm.2 _ _ _ (by omega) hends

theorem readMembers_printed (level fuel : Nat) (rest : Bytes) {ms : List (String × Json)}
    {ys : List (List Piece × Syntax)} (hms : List.Forall₂ ReadsMember ms ys)
    {m : String × Json} {y : List Piece × Syntax} (hm : ReadsMember m y)
    (hfuel : 2 * (memberText level m ++ printed (prettyMembers level ms)).length ≤ fuel + 1) :
    readMembers (fuel + 1) (34 :: (memberText level m ++ (printed (prettyMembers level ms) ++
      rest))) = some (y :: ys, rest) := by
  have hkey := readString_memberText hm level (printed (prettyMembers level ms) ++ rest)
  induction hms generalizing m y fuel with
  | nil =>
    rw [printed_members_nil, List.length_append, List.length_append, List.length_singleton]
      at hfuel
    rw [printed_members_nil, List.append_assoc] at hkey ⊢
    refine readMembers_last hkey (readValue_member hm (by omega) (ends_newLine level _)) ?_
    rw [skipBlank_newLine]
    rfl
  | @cons n z ns zs hn hns ih =>
    rw [printed_members_cons, List.length_append, List.length_cons, List.length_append,
      List.length_cons] at hfuel
    rw [printed_members_cons] at hkey ⊢
    obtain ⟨fuel, rfl⟩ : ∃ k, fuel = k + 1 := ⟨fuel - 1, by omega⟩
    have hmore := ih fuel hn (by omega) (readString_memberText hn level _)
    rw [← readMembers_congr (skipBlank_newLine (level + 1) _)] at hmore
    simp only [List.cons_append, List.append_assoc] at hkey hmore ⊢
    exact readMembers_more hkey (readValue_member hm (by omega) (ends_comma _)) rfl hmore

theorem reads_object {m : String × Json} {y : List Piece × Syntax} {ms : List (String × Json)}
    {ys : List (List Piece × Syntax)} (hm : ReadsMember m y)
    (hms : List.Forall₂ ReadsMember ms ys) : Reads (.object (m :: ms)) (.object (y :: ys)) := by
  intro level fuel rest hfuel hends
  rw [printed_object] at hfuel ⊢
  obtain ⟨fuel, rfl, hroom⟩ := exists_fuel hfuel
  rw [List.length_append, List.length_cons] at hroom
  obtain ⟨fuel, rfl⟩ : ∃ k, fuel = k + 1 := ⟨fuel - 1, by omega⟩
  have hmembers := readMembers_printed level fuel rest hms hm (by omega)
  simp only [List.cons_append, List.append_assoc]
  refine readValue_object hmembers ?_
  rw [skipBlank_newLine]
  rfl

theorem document_toPretty {v : Json} {x : Syntax} (h : Reads v x) :
    document (Text.Utf8.encode v.toPretty) = some x := by
  have hread := h 0 (2 * (printed (pretty 0 v)).length + 2) [] (by omega) (by simp [Ends])
  rw [List.append_nil] at hread
  rw [toPretty, encode_ofList, document, hread]
  rfl

end CardFirmware.Json
