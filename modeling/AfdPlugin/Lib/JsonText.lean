import AfdPlugin.Lib.Json
/-!
# JSON texts

The compact text of a JSON value and the scanner that reads it back. Texts are
written in ASCII: every other character of a string is escaped. The scanner
allows white space between tokens. It refuses what the values here do not have:
null, fractions, strings outside keys, and characters that are half of a pair.
-/

namespace AfdPlugin.Json

/-! ## Writing -/

/-- Four hexadecimal digits. -/
def hexDigits (n : Nat) : List Char :=
  [(n / 4096 % 16).digitChar, (n / 256 % 16).digitChar, (n / 16 % 16).digitChar, (n % 16).digitChar]

/-- The escape of one UTF-16 unit. -/
def unicodeEscape (n : Nat) : List Char := '\x5c' :: 'u' :: hexDigits n

/-- The characters with an escape of their own. -/
def shortEscape (c : Char) : Option Char :=
  if c = '\x5c' then some '\x5c'
  else if c = '\x22' then some '\x22'
  else if c = '\x0a' then some 'n'
  else if c = '\x0d' then some 'r'
  else if c = '\x09' then some 't'
  else if c = '\x0c' then some 'f'
  else if c = '\x08' then some 'b'
  else none

/-- One character of a string. -/
def escape (c : Char) : List Char :=
  match shortEscape c with
  | some e => ['\x5c', e]
  | none =>
    if 0x20 ≤ c.toNat ∧ c.toNat ≤ 0x7e then [c]
    else if c.toNat < 0x10000 then unicodeEscape c.toNat
    else
      unicodeEscape (0xd800 + (c.toNat - 0x10000) / 0x400) ++
        unicodeEscape (0xdc00 + (c.toNat - 0x10000) % 0x400)

def encodeString (s : String) : List Char := '\x22' :: s.toList.flatMap escape ++ ['\x22']

mutual

/-- `json.dumps` with the separators `","` and `":"`. -/
def encode : Json → List Char
  | .bool true => ['t', 'r', 'u', 'e']
  | .bool false => ['f', 'a', 'l', 's', 'e']
  | .int i => (toString i).toList
  | .arr items => '[' :: encodeItems items ++ [']']
  | .obj fields => '\x7b' :: encodeFields fields ++ ['\x7d']

def encodeItems : List Json → List Char
  | [] => []
  | [j] => encode j
  | j :: items => encode j ++ ',' :: encodeItems items

def encodeFields : List (String × Json) → List Char
  | [] => []
  | [(key, j)] => encodeString key ++ ':' :: encode j
  | (key, j) :: fields => encodeString key ++ ':' :: encode j ++ ',' :: encodeFields fields

end

def dumps (j : Json) : String := String.ofList j.encode

/-! ## Reading -/

/-- White space between tokens. -/
def skipSpace (s : List Char) : List Char :=
  s.dropWhile fun c => c = ' ' ∨ c = '\x09' ∨ c = '\x0a' ∨ c = '\x0d'

def hexValue (c : Char) : Option Nat :=
  if '0' ≤ c ∧ c ≤ '9' then some (c.toNat - 48)
  else if 'a' ≤ c ∧ c ≤ 'f' then some (c.toNat - 87)
  else if 'A' ≤ c ∧ c ≤ 'F' then some (c.toNat - 55)
  else none

def scanHex : List Char → Except String (Nat × List Char)
  | a :: b :: c :: d :: s =>
    match hexValue a, hexValue b, hexValue c, hexValue d with
    | some a, some b, some c, some d => .ok (((a * 16 + b) * 16 + c) * 16 + d, s)
    | _, _, _, _ => .error "Invalid \\uXXXX escape"
  | _ => .error "Invalid \\uXXXX escape"

/-- The character of a four-digit escape, or of a pair of them. -/
def scanUnicode (s : List Char) : Except String (Char × List Char) := do
  let (n, s) ← scanHex s
  if n < 0xd800 ∨ 0xdfff < n then .ok (Char.ofNat n, s)
  else if 0xdbff < n then .error "unpaired surrogate"
  else
    match s with
    | '\x5c' :: 'u' :: s => do
      let (m, s) ← scanHex s
      if 0xdc00 ≤ m ∧ m ≤ 0xdfff then .ok (Char.ofNat (0x10000 + (n - 0xd800) * 0x400 + (m - 0xdc00)), s)
      else .error "unpaired surrogate"
    | _ => .error "unpaired surrogate"

def shortUnescape (e : Char) : Option Char :=
  if e = '\x5c' then some '\x5c'
  else if e = '\x22' then some '\x22'
  else if e = '/' then some '/'
  else if e = 'n' then some '\x0a'
  else if e = 'r' then some '\x0d'
  else if e = 't' then some '\x09'
  else if e = 'f' then some '\x0c'
  else if e = 'b' then some '\x08'
  else none

/-- One character of a string. -/
def scanChar : List Char → Except String (Char × List Char)
  | [] => .error "Unterminated string starting at"
  | c :: s =>
    if c ≠ '\x5c' then if c.toNat < 0x20 then .error "Invalid control character at" else .ok (c, s)
    else
      match s with
      | [] => .error "Unterminated string starting at"
      | e :: s =>
        if e = 'u' then scanUnicode s
        else
          match shortUnescape e with
          | some c => .ok (c, s)
          | none => .error "Invalid \\escape"

/-- The characters up to the closing quote. -/
def scanString : Nat → List Char → Except String (List Char × List Char)
  | 0, _ => .error "Unterminated string starting at"
  | _ + 1, [] => .error "Unterminated string starting at"
  | n + 1, c :: s =>
    if c = '\x22' then .ok ([], s)
    else do
      let (c, s) ← scanChar (c :: s)
      let (cs, s) ← scanString n s
      .ok (c :: cs, s)

/-- An optional sign, then `0` or digits that do not start with it. -/
def scanNumber (s : List Char) : Except String (Json × List Char) :=
  let negative := s.head? = some '-'
  let s := if negative then s.tail else s
  let digits := if s.head? = some '0' then ['0'] else s.takeWhile Char.isDigit
  if digits = [] then .error "Expecting value"
  else
    let n : Int := Nat.ofDigitChars 10 digits 0
    .ok (.int (if negative then -n else n), s.drop digits.length)

mutual

/-- `scan_once`: one value, and what follows it. -/
def scanOnce : Nat → List Char → Except String (Json × List Char)
  | 0, _ => .error "maximum recursion depth exceeded"
  | _ + 1, [] => .error "Expecting value"
  | n + 1, c :: s =>
    if c = '\x7b' then
      let s := skipSpace s
      if s.head? = some '\x7d' then .ok (.obj [], s.tail)
      else do
        let (fields, s) ← scanFields n s
        -- a repeated key keeps its last value
        .ok (.obj (Dict.setAll ∅ fields).entries, s)
    else if c = '[' then
      let s := skipSpace s
      if s.head? = some ']' then .ok (.arr [], s.tail)
      else do
        let (items, s) ← scanItems n s
        .ok (.arr items, s)
    else if c = 't' ∧ s.take 3 = ['r', 'u', 'e'] then .ok (.bool true, s.drop 3)
    else if c = 'f' ∧ s.take 4 = ['a', 'l', 's', 'e'] then .ok (.bool false, s.drop 4)
    else scanNumber (c :: s)

/-- The items up to the closing bracket. -/
def scanItems : Nat → List Char → Except String (List Json × List Char)
  | 0, _ => .error "maximum recursion depth exceeded"
  | n + 1, s => do
    let (j, s) ← scanOnce n s
    match skipSpace s with
    | [] => .error "Expecting ',' delimiter"
    | c :: s =>
      if c = ']' then .ok ([j], s)
      else if c ≠ ',' then .error "Expecting ',' delimiter"
      else do
        let (items, s) ← scanItems n (skipSpace s)
        .ok (j :: items, s)

/-- The fields up to the closing brace. -/
def scanFields : Nat → List Char → Except String (List (String × Json) × List Char)
  | 0, _ => .error "maximum recursion depth exceeded"
  | _ + 1, [] => .error "Expecting property name enclosed in double quotes"
  | n + 1, c :: s =>
    if c ≠ '\x22' then .error "Expecting property name enclosed in double quotes"
    else do
      let (key, s) ← scanString (s.length + 1) s
      let s := skipSpace s
      if s.head? ≠ some ':' then .error "Expecting ':' delimiter"
      else do
        let (j, s) ← scanOnce n (skipSpace s.tail)
        match skipSpace s with
        | [] => .error "Expecting ',' delimiter"
        | c :: s =>
          if c = '\x7d' then .ok ([(String.ofList key, j)], s)
          else if c ≠ ',' then .error "Expecting ',' delimiter"
          else do
            let (fields, s) ← scanFields n (skipSpace s)
            .ok ((String.ofList key, j) :: fields, s)

end

/-- `json.loads` of a string. -/
def loads (text : String) : Except String Json :=
  if text.toList.head? = some '\ufeff' then .error "Unexpected UTF-8 BOM (decode using utf-8-sig)"
  else do
    let s := skipSpace text.toList
    let (j, s) ← scanOnce (s.length + 1) s
    if skipSpace s = [] then .ok j else .error "Extra data"

/-! ## What is written is read back -/

theorem hexValue_digitChar : ∀ d < 16, hexValue d.digitChar = some d := by decide

theorem scanHex_hexDigits {n : Nat} (hn : n < 0x10000) (r : List Char) :
    scanHex (hexDigits n ++ r) = .ok (n, r) := by
  have h4 := hexValue_digitChar (n / 4096 % 16) (Nat.mod_lt _ (by decide))
  have h3 := hexValue_digitChar (n / 256 % 16) (Nat.mod_lt _ (by decide))
  have h2 := hexValue_digitChar (n / 16 % 16) (Nat.mod_lt _ (by decide))
  have h1 := hexValue_digitChar (n % 16) (Nat.mod_lt _ (by decide))
  have hsum : ((n / 4096 % 16 * 16 + n / 256 % 16) * 16 + n / 16 % 16) * 16 + n % 16 = n := by omega
  simp only [hexDigits, List.cons_append, List.nil_append, scanHex, h4, h3, h2, h1, hsum]

/-- A character is not half of a pair. -/
theorem toNat_valid (c : Char) : c.toNat < 0xd800 ∨ (0xdfff < c.toNat ∧ c.toNat < 0x110000) := c.valid

theorem scanUnicode_escape {c : Char} (hc : c.toNat < 0x10000) (r : List Char) :
    scanUnicode (hexDigits c.toNat ++ r) = .ok (c, r) := by
  have hplain : c.toNat < 0xd800 ∨ 0xdfff < c.toNat := (toNat_valid c).imp_right And.left
  unfold scanUnicode
  rw [scanHex_hexDigits hc, Fallible.ok_bind]
  simp only [hplain, if_true, Char.ofNat_toNat]

theorem scanUnicode_pair {c : Char} (hc : 0x10000 ≤ c.toNat) (r : List Char) :
    scanUnicode (hexDigits (0xd800 + (c.toNat - 0x10000) / 0x400) ++
      (unicodeEscape (0xdc00 + (c.toNat - 0x10000) % 0x400) ++ r)) = .ok (c, r) := by
  have hlt : c.toNat < 0x110000 := by
    rcases toNat_valid c with h | h <;> omega
  have hhigh : ¬ (0xd800 + (c.toNat - 0x10000) / 0x400 < 0xd800 ∨
      0xdfff < 0xd800 + (c.toNat - 0x10000) / 0x400) := by
    omega
  have hhalf : ¬ 0xdbff < 0xd800 + (c.toNat - 0x10000) / 0x400 := by omega
  have hlow : 0xdc00 ≤ 0xdc00 + (c.toNat - 0x10000) % 0x400 ∧
    0xdc00 + (c.toNat - 0x10000) % 0x400 ≤ 0xdfff := by omega
  have hvalue : 0x10000 + (0xd800 + (c.toNat - 0x10000) / 0x400 - 0xd800) * 0x400 +
      (0xdc00 + (c.toNat - 0x10000) % 0x400 - 0xdc00) = c.toNat := by omega
  unfold scanUnicode
  rw [scanHex_hexDigits (by omega), Fallible.ok_bind]
  simp only [hhigh, hhalf, if_false, unicodeEscape, List.cons_append]
  rw [scanHex_hexDigits (by omega), Fallible.ok_bind]
  simp only [hlow, and_self, if_true, hvalue, Char.ofNat_toNat]

/-- A character with an escape of its own. -/
theorem shortEscape_some {c e : Char} (h : shortEscape c = some e) :
    e ≠ 'u' ∧ shortUnescape e = some c := by
  unfold shortEscape at h
  split_ifs at h with h1 h2 h3 h4 h5 h6 h7
  all_goals
    cases h
    subst c
    decide

theorem shortEscape_none {c : Char} (h : shortEscape c = none) : c ≠ '\x5c' ∧ c ≠ '\x22' := by
  unfold shortEscape at h
  split_ifs at h with h1 h2
  exact ⟨h1, h2⟩

theorem scanChar_escape (c : Char) (r : List Char) : scanChar (escape c ++ r) = .ok (c, r) := by
  unfold escape
  cases h : shortEscape c with
  | some e =>
    obtain ⟨hu, he⟩ := shortEscape_some h
    simp only [List.cons_append, List.nil_append, scanChar, ne_eq, not_true, if_false, hu, he]
  | none =>
    obtain ⟨hback, -⟩ := shortEscape_none h
    dsimp only
    split
    · rename_i hplain
      have hctrl : ¬ c.toNat < 0x20 := by omega
      simp only [List.cons_append, List.nil_append, scanChar, ne_eq, hback, not_false_eq_true, if_true,
        hctrl, if_false]
    · split
      · rename_i hsmall
        simp only [unicodeEscape, List.cons_append, scanChar, ne_eq, not_true, if_false, if_true]
        exact scanUnicode_escape hsmall r
      · rename_i hlarge
        rw [List.append_assoc, unicodeEscape, List.cons_append, List.cons_append]
        simp only [scanChar, ne_eq, not_true, if_false, if_true]
        exact scanUnicode_pair (not_lt.1 hlarge) r

/-- An escaped character does not look like the closing quote. -/
theorem escape_head (c : Char) : ∃ d rest, escape c = d :: rest ∧ d ≠ '\x22' := by
  unfold escape
  cases h : shortEscape c with
  | some e => exact ⟨_, _, rfl, by decide⟩
  | none =>
    obtain ⟨-, hquote⟩ := shortEscape_none h
    dsimp only
    split
    · exact ⟨_, _, rfl, hquote⟩
    · split
      · exact ⟨_, _, rfl, by decide⟩
      · exact ⟨_, _, rfl, by decide⟩

theorem scanString_escape {cs : List Char} {n : Nat} (hn : cs.length < n) (r : List Char) :
    scanString n (cs.flatMap escape ++ '\x22' :: r) = .ok (cs, r) := by
  induction cs generalizing n with
  | nil =>
    obtain ⟨n, rfl⟩ := Nat.exists_eq_succ_of_ne_zero (Nat.ne_zero_of_lt hn)
    simp [scanString]
  | cons c cs ih =>
    obtain ⟨n, rfl⟩ := Nat.exists_eq_succ_of_ne_zero (Nat.ne_zero_of_lt hn)
    obtain ⟨d, rest, hd, hquote⟩ := escape_head c
    have hchar := scanChar_escape c (cs.flatMap escape ++ '\x22' :: r)
    have hrest := ih (n := n) (by simpa using hn)
    rw [List.flatMap_cons, List.append_assoc]
    rw [hd, List.cons_append] at hchar ⊢
    rw [scanString, if_neg hquote, hchar, Fallible.ok_bind]
    dsimp only
    rw [hrest]
    rfl

theorem length_le_flatMap_escape (cs : List Char) : cs.length ≤ (cs.flatMap escape).length := by
  induction cs with
  | nil => exact le_rfl
  | cons c cs ih =>
    obtain ⟨d, rest, hd, -⟩ := escape_head c
    rw [List.flatMap_cons, List.length_append, hd, List.length_cons, List.length_cons]
    omega

/-- What follows a value does not go on with its digits. -/
def Ends (r : List Char) : Prop := ∀ c, r.head? = some c → c.isDigit = false

theorem ends_cons {c : Char} (h : c.isDigit = false) (r : List Char) : Ends (c :: r) := by
  intro d hd
  cases hd
  exact h

theorem ends_nil : Ends [] := by
  intro d hd
  cases hd

/-- Only zero is written with a leading zero. -/
theorem eq_zero_of_toDigits_head {n : Nat} (h : (Nat.toDigits 10 n).head? = some '0') : n = 0 := by
  induction n using Nat.strongRecOn with
  | _ n ih =>
    rw [Nat.toDigits_eq_if (by decide)] at h
    split at h
    · rename_i hlt
      have hzero : ∀ d < 10, [d.digitChar].head? = some '0' → d = 0 := by decide
      exact hzero n hlt h
    · rename_i hge
      rw [List.head?_append_of_ne_nil _ Nat.toDigits_ne_nil] at h
      have := ih (n / 10) (by omega) h
      omega

theorem takeWhile_toDigits (n : Nat) {r : List Char} (hr : Ends r) :
    (Nat.toDigits 10 n ++ r).takeWhile Char.isDigit = Nat.toDigits 10 n := by
  rw [List.takeWhile_append_of_pos fun c hc => Nat.isDigit_of_mem_toDigits (by decide) (by decide) hc]
  cases r with
  | nil => rw [List.takeWhile_nil, List.append_nil]
  | cons c r => rw [List.takeWhile_cons_of_neg (by simp [hr c rfl]), List.append_nil]

/-- The digits of a number, in front of something else. -/
theorem scan_toDigits (n : Nat) {r : List Char} (hr : Ends r) :
    (if (Nat.toDigits 10 n ++ r).head? = some '0' then ['0']
      else (Nat.toDigits 10 n ++ r).takeWhile Char.isDigit) =
      Nat.toDigits 10 n := by
  split
  · rename_i h
    rw [List.head?_append_of_ne_nil _ Nat.toDigits_ne_nil] at h
    rw [eq_zero_of_toDigits_head h]
    rfl
  · exact takeWhile_toDigits n hr

theorem toDigits_head (n : Nat) : ∃ c rest, Nat.toDigits 10 n = c :: rest ∧ c.isDigit = true := by
  cases h : Nat.toDigits 10 n with
  | nil => exact absurd h Nat.toDigits_ne_nil
  | cons c rest =>
    exact ⟨c, rest, rfl, Nat.isDigit_of_mem_toDigits (b := 10) (n := n) (by decide) (by decide)
      (h ▸ List.mem_cons_self)⟩

theorem toList_ofNat (n : Nat) : (toString (Int.ofNat n)).toList = Nat.toDigits 10 n := Nat.toList_repr

theorem toList_negSucc (n : Nat) : (toString (Int.negSucc n)).toList = '-' :: Nat.toDigits 10 (n + 1) := by
  have h : toString (Int.negSucc n) = "-" ++ (n + 1).repr := rfl
  rw [h, String.toList_append, Nat.toList_repr]
  rfl

theorem scanNumber_toString (i : Int) {r : List Char} (hr : Ends r) :
    scanNumber ((toString i).toList ++ r) = .ok (.int i, r) := by
  have hvalue : ∀ n : Nat, Nat.ofDigitChars 10 (Nat.toDigits 10 n) 0 = n :=
    fun n => Nat.ofDigitChars_ten_toDigits
  cases i with
  | ofNat n =>
    obtain ⟨c, rest, hc, hdigit⟩ := toDigits_head n
    have hplus : ¬ (Nat.toDigits 10 n ++ r).head? = some '-' := by
      rw [hc]
      intro h
      cases h
      cases hdigit
    rw [toList_ofNat]
    unfold scanNumber
    simp only [hplus, if_false, scan_toDigits n hr, Nat.toDigits_ne_nil, hvalue, List.drop_left]
    rfl
  | negSucc n =>
    rw [toList_negSucc]
    unfold scanNumber
    simp only [List.cons_append, List.head?_cons, if_true, List.tail_cons, scan_toDigits (n + 1) hr,
      Nat.toDigits_ne_nil, if_false, hvalue, List.drop_left]
    rfl

/-- No object of a document has a key twice. -/
inductive DistinctKeys : Json → Prop
  | bool (b : Bool) : DistinctKeys (.bool b)
  | int (i : Int) : DistinctKeys (.int i)
  | arr {items : List Json} : (∀ j ∈ items, DistinctKeys j) → DistinctKeys (.arr items)
  | obj {fields : List (String × Json)} :
      (fields.map Prod.fst).Nodup → (∀ f ∈ fields, DistinctKeys f.2) → DistinctKeys (.obj fields)

theorem skipSpace_cons {c : Char} (h : ¬ (c = ' ' ∨ c = '\x09' ∨ c = '\x0a' ∨ c = '\x0d')) (s : List Char) :
    skipSpace (c :: s) = c :: s :=
  List.dropWhile_cons_of_neg (by simpa using h)

/-- How a value can start. -/
theorem encode_head (j : Json) : ∃ c rest, encode j = c :: rest ∧
    ¬ (c = ' ' ∨ c = '\x09' ∨ c = '\x0a' ∨ c = '\x0d') ∧ c ≠ ']' ∧ c ≠ '\ufeff' := by
  cases j with
  | bool b => cases b <;> exact ⟨_, _, by rw [encode], by decide, by decide, by decide⟩
  | int i =>
    cases i with
    | ofNat n =>
      obtain ⟨c, rest, hc, hdigit⟩ := toDigits_head n
      refine ⟨c, rest, by rw [encode, toList_ofNat, hc], ?_, ?_, ?_⟩
      · rintro (rfl | rfl | rfl | rfl) <;> cases hdigit
      · rintro rfl
        cases hdigit
      · rintro rfl
        cases hdigit
    | negSucc n => exact ⟨_, _, by rw [encode, toList_negSucc], by decide, by decide, by decide⟩
  | arr items => exact ⟨_, _, by rw [encode, List.cons_append], by decide, by decide, by decide⟩
  | obj fields => exact ⟨_, _, by rw [encode, List.cons_append], by decide, by decide, by decide⟩

/-- Reading one value back, whatever follows it. -/
def ReadsBack (j : Json) : Prop :=
  ∀ n r, (encode j).length ≤ n → Ends r → scanOnce n (encode j ++ r) = .ok (j, r)

theorem skipSpace_encode (j : Json) (r : List Char) : skipSpace (encode j ++ r) = encode j ++ r := by
  obtain ⟨c, rest, hc, hspace, -⟩ := encode_head j
  rw [hc, List.cons_append, skipSpace_cons hspace]

theorem skipSpace_encodeItems (j : Json) (items : List Json) (r : List Char) :
    skipSpace (encodeItems (j :: items) ++ r) = encodeItems (j :: items) ++ r := by
  cases items with
  | nil => rw [encodeItems, skipSpace_encode]
  | cons i items =>
    rw [encodeItems, List.append_assoc, skipSpace_encode]
    simp

theorem scanItems_encode {j : Json} {items : List Json} (h : ∀ i ∈ j :: items, ReadsBack i) {n : Nat}
    (hn : (encodeItems (j :: items)).length < n) (r : List Char) :
    scanItems n (encodeItems (j :: items) ++ ']' :: r) = .ok (j :: items, r) := by
  induction items generalizing j n with
  | nil =>
    obtain ⟨n, rfl⟩ := Nat.exists_eq_succ_of_ne_zero (Nat.ne_zero_of_lt hn)
    rw [encodeItems] at hn ⊢
    rw [scanItems, h j List.mem_cons_self n (']' :: r) (by omega) (ends_cons (by decide) r),
      Fallible.ok_bind]
    dsimp only
    rw [skipSpace_cons (by decide)]
    dsimp only
    rw [if_pos rfl]
  | cons i items ih =>
    obtain ⟨n, rfl⟩ := Nat.exists_eq_succ_of_ne_zero (Nat.ne_zero_of_lt hn)
    have hitems : encodeItems (j :: i :: items) = encode j ++ ',' :: encodeItems (i :: items) := by
      rw [encodeItems]; simp
    rw [hitems, List.length_append, List.length_cons] at hn
    rw [hitems, List.append_assoc, List.cons_append, scanItems,
      h j List.mem_cons_self n _ (by omega) (ends_cons (by decide) _), Fallible.ok_bind]
    dsimp only
    rw [skipSpace_cons (by decide)]
    dsimp only
    rw [if_neg (by decide), if_neg (by decide), skipSpace_encodeItems,
      ih (fun k hk => h k (List.mem_cons_of_mem j hk)) (by omega)]
    rfl

theorem skipSpace_encodeFields (f : String × Json) (fields : List (String × Json)) (r : List Char) :
    skipSpace (encodeFields (f :: fields) ++ r) = encodeFields (f :: fields) ++ r := by
  obtain ⟨c, hc⟩ : ∃ rest, encodeFields (f :: fields) = '\x22' :: rest := by
    cases fields with
    | nil => exact ⟨_, by rw [encodeFields, encodeString, List.cons_append, List.cons_append]⟩
    | cons g fields =>
      refine ⟨f.1.toList.flatMap escape ++ ['\x22'] ++ ':' :: encode f.2 ++
        ',' :: encodeFields (g :: fields), ?_⟩
      simp [encodeFields, encodeString]
  rw [hc, List.cons_append, skipSpace_cons (by decide)]

/-- A key and the colon after it. -/
theorem scanString_key (key : String) (s : List Char) :
    scanString ((key.toList.flatMap escape ++ '\x22' :: s).length + 1)
      (key.toList.flatMap escape ++ '\x22' :: s) =
      .ok (key.toList, s) := by
  have hlen := length_le_flatMap_escape key.toList
  exact scanString_escape (by rw [List.length_append]; omega) s

theorem scanFields_encode {f : String × Json} {fields : List (String × Json)}
    (h : ∀ g ∈ f :: fields, ReadsBack g.2) {n : Nat} (hn : (encodeFields (f :: fields)).length < n)
    (r : List Char) :
    scanFields n (encodeFields (f :: fields) ++ '\x7d' :: r) = .ok (f :: fields, r) := by
  induction fields generalizing f n with
  | nil =>
    obtain ⟨n, rfl⟩ := Nat.exists_eq_succ_of_ne_zero (Nat.ne_zero_of_lt hn)
    have htext : encodeFields [f] ++ '\x7d' :: r =
        '\x22' :: (f.1.toList.flatMap escape ++ '\x22' :: ':' :: (encode f.2 ++ '\x7d' :: r)) := by
      simp [encodeFields, encodeString]
    have hlen : (encode f.2).length ≤ n := by
      rw [encodeFields, List.length_append, List.length_cons] at hn
      omega
    rw [htext, scanFields, if_neg (by simp), scanString_key, Fallible.ok_bind]
    dsimp only
    rw [skipSpace_cons (by decide), if_neg (by simp), List.tail_cons, skipSpace_encode,
      h f List.mem_cons_self n _ hlen (ends_cons (by decide) r), Fallible.ok_bind]
    dsimp only
    rw [skipSpace_cons (by decide)]
    dsimp only
    rw [if_pos rfl, String.ofList_toList]
  | cons g fields ih =>
    obtain ⟨n, rfl⟩ := Nat.exists_eq_succ_of_ne_zero (Nat.ne_zero_of_lt hn)
    have hfields : encodeFields (f :: g :: fields) =
        encodeString f.1 ++ ':' :: encode f.2 ++ ',' :: encodeFields (g :: fields) := by
      rw [encodeFields]
      simp
    have htext : encodeFields (f :: g :: fields) ++ '\x7d' :: r = '\x22' :: (f.1.toList.flatMap escape ++
        '\x22' :: ':' :: (encode f.2 ++ ',' :: (encodeFields (g :: fields) ++ '\x7d' :: r))) := by
      simp [hfields, encodeString]
    have hlen : (encode f.2).length ≤ n ∧ (encodeFields (g :: fields)).length < n := by
      rw [hfields] at hn
      simp only [List.length_append, List.length_cons] at hn
      omega
    rw [htext, scanFields, if_neg (by simp), scanString_key, Fallible.ok_bind]
    dsimp only
    rw [skipSpace_cons (by decide), if_neg (by simp), List.tail_cons, skipSpace_encode,
      h f List.mem_cons_self n _ hlen.1 (ends_cons (by decide) _), Fallible.ok_bind]
    dsimp only
    rw [skipSpace_cons (by decide)]
    dsimp only
    rw [if_neg (by decide), if_neg (by decide), skipSpace_encodeFields,
      ih (fun k hk => h k (List.mem_cons_of_mem f hk)) hlen.2, String.ofList_toList]
    rfl

/-- Every value is read back from its text. -/
theorem readsBack {j : Json} (h : DistinctKeys j) : ReadsBack j := by
  induction h with
  | bool b =>
    intro n r hn _
    cases b <;>
      · rw [encode] at hn ⊢
        obtain ⟨n, rfl⟩ := Nat.exists_eq_succ_of_ne_zero (Nat.ne_zero_of_lt hn)
        rfl
  | int i =>
    intro n r hn hr
    obtain ⟨c, rest, hc, hne⟩ : ∃ c rest, (toString i).toList = c :: rest ∧ c ≠ '\x7b' ∧ c ≠ '[' ∧
        c ≠ 't' ∧ c ≠ 'f' := by
      cases i with
      | ofNat m =>
        obtain ⟨c, rest, hc, hdigit⟩ := toDigits_head m
        refine ⟨c, rest, by rw [toList_ofNat, hc], ?_, ?_, ?_, ?_⟩
        all_goals
          rintro rfl
          cases hdigit
      | negSucc m => exact ⟨_, _, toList_negSucc m, by decide, by decide, by decide, by decide⟩
    have hnumber := scanNumber_toString i hr
    rw [encode, hc] at hn ⊢
    rw [hc, List.cons_append] at hnumber
    obtain ⟨n, rfl⟩ := Nat.exists_eq_succ_of_ne_zero (Nat.ne_zero_of_lt hn)
    rw [List.cons_append, scanOnce, if_neg hne.1, if_neg hne.2.1, if_neg fun h => hne.2.2.1 h.1,
      if_neg fun h => hne.2.2.2 h.1, hnumber]
  | @arr items _ ih =>
    intro n r hn _
    rw [encode] at hn ⊢
    obtain ⟨n, rfl⟩ := Nat.exists_eq_succ_of_ne_zero (Nat.ne_zero_of_lt hn)
    rw [List.append_assoc, List.cons_append, List.singleton_append, scanOnce,
      if_neg (by decide), if_pos rfl]
    cases items with
    | nil =>
      rw [encodeItems, List.nil_append, skipSpace_cons (by decide)]
      rfl
    | cons j items =>
      have hhead : ¬ (encodeItems (j :: items) ++ ']' :: r).head? = some ']' := by
        obtain ⟨c, rest, hc, -, hne, -⟩ := encode_head j
        have hstart : (encodeItems (j :: items) ++ ']' :: r).head? = some c := by
          cases items with
          | nil => rw [encodeItems, hc, List.cons_append, List.head?_cons]
          | cons i items =>
            rw [encodeItems, hc, List.cons_append, List.cons_append, List.head?_cons]
            simp
        rw [hstart]
        exact fun h => hne (Option.some.inj h)
      rw [skipSpace_encodeItems]
      dsimp only
      rw [if_neg hhead, scanItems_encode ih (by simp at hn; omega), Fallible.ok_bind]
  | @obj fields hnodup _ ih =>
    intro n r hn _
    rw [encode] at hn ⊢
    obtain ⟨n, rfl⟩ := Nat.exists_eq_succ_of_ne_zero (Nat.ne_zero_of_lt hn)
    rw [List.append_assoc, List.cons_append, List.singleton_append, scanOnce, if_pos rfl]
    cases fields with
    | nil =>
      rw [encodeFields, List.nil_append, skipSpace_cons (by decide)]
      rfl
    | cons f fields =>
      have hhead : ¬ (encodeFields (f :: fields) ++ '\x7d' :: r).head? = some '\x7d' := by
        cases fields with
        | nil => simp [encodeFields, encodeString]
        | cons g fields => simp [encodeFields, encodeString]
      rw [skipSpace_encodeFields]
      dsimp only
      rw [if_neg hhead, scanFields_encode ih (by simp at hn; omega), Fallible.ok_bind]
      dsimp only
      rw [Dict.entries_empty_setAll hnodup]

theorem distinctKeys_object {fields : List (String × Json)} (hn : (fields.map Prod.fst).Nodup)
    (h : ∀ f ∈ fields, DistinctKeys f.2) : DistinctKeys (object fields) := by
  have hperm := List.perm_insertionSort (fun a b : String × Json => a.1 ≤ b.1) fields
  refine .obj ((hperm.map Prod.fst).nodup_iff.2 hn) ?_
  intro f hf
  exact h f (hperm.mem_iff.1 hf)

theorem loads_dumps {j : Json} (h : DistinctKeys j) : loads (dumps j) = .ok j := by
  obtain ⟨c, rest, hc, hspace, -, hne⟩ := encode_head j
  have hbom : ¬ (encode j).head? = some '\ufeff' := by
    rw [hc]
    exact fun h => hne (Option.some.inj h)
  have hskip : skipSpace (encode j) = encode j := by rw [hc, skipSpace_cons hspace]
  have hread := readsBack h ((encode j).length + 1) [] (Nat.le_succ _) ends_nil
  rw [List.append_nil] at hread
  unfold loads dumps
  rw [String.toList_ofList, if_neg hbom, hskip]
  dsimp only
  rw [hread, Fallible.ok_bind]
  rfl

end AfdPlugin.Json
