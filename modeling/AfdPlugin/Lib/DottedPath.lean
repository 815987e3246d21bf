import Mathlib.Tactic
/-!
# Dotted names

Names of module attributes joined by dots, and the decimal index of a list
entry inside such a name.
-/

namespace AfdPlugin

/-- `name.split(".")`. -/
def splitDots (name : String) : List String := (name.toList.splitOn '.').map String.ofList

/-- `".".join(parts)`. -/
def joinDots (parts : List String) : String := String.ofList (['.'].intercalate (parts.map String.toList))

/-- The name of one attribute: it holds no dot. -/
def Dotless (part : String) : Prop := '.' ∉ part.toList

theorem splitDots_joinDots {parts : List String} (hne : parts ≠ []) (h : ∀ part ∈ parts, Dotless part) :
    splitDots (joinDots parts) = parts := by
  have hchars : ∀ chars ∈ parts.map String.toList, '.' ∉ chars := by
    intro chars hmem
    obtain ⟨part, hpart, rfl⟩ := List.mem_map.1 hmem
    exact h part hpart
  rw [splitDots, joinDots, String.toList_ofList, List.splitOn_intercalate _ hchars (by simpa using hne),
    List.map_map]
  simp

/-! ## Decimal numbers -/

/-- The blanks of ASCII that `str.strip` removes. -/
def isBlank (c : Char) : Bool := c = ' ' ∨ (9 ≤ c.toNat ∧ c.toNat ≤ 13) ∨ (28 ≤ c.toNat ∧ c.toNat ≤ 31)

def strip (chars : List Char) : List Char := ((chars.dropWhile isBlank).reverse.dropWhile isBlank).reverse

/-- Digits, with single underscores between them. -/
def isDigits : List Char → Bool
  | [] => false
  | [c] => c.isDigit
  | c :: '_' :: rest => c.isDigit && isDigits rest
  | c :: rest => c.isDigit && isDigits rest

/-- `int(text)` of an ASCII text, `none` where it raises `ValueError`. -/
def pyInt (text : String) : Option Int :=
  let chars := strip text.toList
  let negative := chars.head? = some '-'
  let digits := if negative ∨ chars.head? = some '+' then chars.tail else chars
  let n : Int := Nat.ofDigitChars 10 (digits.filter Char.isDigit) 0
  if isDigits digits then some (if negative then -n else n) else none

theorem isDigits_of_all {chars : List Char} (hne : chars ≠ []) (h : ∀ c ∈ chars, c.isDigit) :
    isDigits chars := by
  induction chars with
  | nil => exact absurd rfl hne
  | cons c rest ih =>
    have hc := h c List.mem_cons_self
    cases rest with
    | nil => simpa [isDigits] using hc
    | cons d rest =>
      have hrest := ih (List.cons_ne_nil _ _) fun e he => h e (List.mem_cons_of_mem _ he)
      have hd : d ≠ '_' := by
        rintro rfl
        exact absurd (h '_' (by simp)) (by decide)
      rw [isDigits]
      · simp [hc, hrest]
      · intro he
        simp_all
      · intro rest' he
        simp_all

theorem isBlank_of_isDigit {c : Char} (h : c.isDigit) : isBlank c = false := by
  simp only [Char.isDigit, Bool.and_eq_true, decide_eq_true_eq, ge_iff_le, UInt32.le_iff_toNat_le] at h
  have hblank : c ≠ ' ' := by
    rintro rfl
    simp at h
  have hlow : 48 ≤ c.toNat := h.1
  simp only [isBlank, hblank, false_or, decide_eq_false_iff_not]
  omega

theorem strip_of_digits {chars : List Char} (h : ∀ c ∈ chars, c.isDigit) : strip chars = chars := by
  have hdrop : ∀ l : List Char, (∀ c ∈ l, c.isDigit) → l.dropWhile isBlank = l := by
    intro l hl
    cases l with
    | nil => rfl
    | cons c rest =>
      rw [List.dropWhile_cons_of_neg (by simp [isBlank_of_isDigit (hl c List.mem_cons_self)])]
  rw [strip, hdrop chars h, hdrop chars.reverse (fun c hc => h c (List.mem_reverse.1 hc)),
    List.reverse_reverse]

/-- The digits of a number are read back as the number. -/
theorem pyInt_toString (n : Nat) : pyInt (toString n) = some (n : Int) := by
  have hchars : (toString n).toList = Nat.toDigits 10 n := Nat.toList_repr
  have hdigit : ∀ c ∈ Nat.toDigits 10 n, c.isDigit :=
    fun c hc => Nat.isDigit_of_mem_toDigits (by decide) (by decide) hc
  have hsign : ∀ c : Char, c.isDigit = false → (Nat.toDigits 10 n).head? ≠ some c := by
    intro c hc he
    have := hdigit c (List.mem_of_head? he)
    simp [hc] at this
  have hfilter : (Nat.toDigits 10 n).filter Char.isDigit = Nat.toDigits 10 n := List.filter_eq_self.2 hdigit
  simp only [pyInt, hchars, strip_of_digits hdigit, hsign '-' (by decide), hsign '+' (by decide),
    false_or, if_false, hfilter, isDigits_of_all Nat.toDigits_ne_nil hdigit, if_true,
    Nat.ofDigitChars_ten_toDigits]

theorem dotless_toString (n : Nat) : Dotless (toString n) := by
  have hchars : (toString n).toList = Nat.toDigits 10 n := Nat.toList_repr
  rw [Dotless, hchars]
  intro hmem
  have := Nat.isDigit_of_mem_toDigits (b := 10) (n := n) (by decide) (by decide) hmem
  exact absurd this (by decide)

end AfdPlugin
