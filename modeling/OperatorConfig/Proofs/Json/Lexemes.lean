import OperatorConfig.Json.Printer
import OperatorConfig.Json.Token
import OperatorConfig.Proofs.Text.Utf8

/-!
# Spellings of tokens

A quoted text is a spelling of that text, and the decimal digits of an integer are one of that integer if
no byte behind them could go on with the number. So a text is cut into tokens one at a time, and which
tokens they are does not depend on where the text stands (`Reads`).
-/

namespace OperatorConfig.Json

namespace Token

theorem toNat_ascii (byte : UInt8) : (ascii byte).toNat = byte.toNat := by
  have hlt := byte.toNat_lt
  rw [ascii, Char.ofNat, dif_pos (.inl (by omega))]
  rfl

theorem ascii_ne {byte : UInt8} {c : Char} (h : byte.toNat ≠ c.toNat) : ascii byte ≠ c := by
  rintro rfl
  exact h (toNat_ascii byte).symm

/-! ### Quoted texts -/

/-- Before a quote, and then the rest, the bytes of a text stand for the bytes of its content. -/
def Spells (rest text content : List UInt8) : Prop :=
  ∀ offset, ∃ pieces stop,
    piecesOf offset (text ++ 0x22 :: rest) = (pieces, .closed stop) ∧
      stop = offset + text.length + 1 ∧ contentBytes (.closed stop) pieces = .ok content

namespace Spells

variable {rest text content : List UInt8}

theorem nil : Spells rest [] [] := fun offset => ⟨[], offset + 1, rfl, rfl, rfl⟩

/-- A byte that is no control, quote or backslash stands for itself. -/
theorem byte {byte : UInt8} (hcontrol : 0x20 ≤ byte.toNat) (hquote : byte.toNat ≠ 0x22)
    (hescape : byte.toNat ≠ 0x5C) (h : Spells rest text content) :
    Spells rest (byte :: text) (byte :: content) := by
  intro offset
  obtain ⟨pieces, stop, hpieces, hstop, hcontent⟩ := h (offset + 1)
  refine ⟨(.byte byte, offset + 1) :: pieces, stop, ?_, ?_, ?_⟩
  · have hlow : ¬ byte < 0x20 := by
      rw [UInt8.lt_iff_toNat_lt]
      exact Nat.not_lt.mpr hcontrol
    rw [List.cons_append, piecesOf.eq_def]
    dsimp only
    split
    next hchar => exact absurd hchar (ascii_ne hquote)
    next hchar => exact absurd hchar (ascii_ne hescape)
    next => rw [if_neg hlow, hpieces]
  · rw [hstop, List.length_cons]
    omega
  · rw [contentBytes, hcontent]
    rfl

theorem bytes {bytes : List UInt8}
    (hbytes : ∀ byte ∈ bytes, 0x20 ≤ byte.toNat ∧ byte.toNat ≠ 0x22 ∧ byte.toNat ≠ 0x5C)
    (h : Spells rest text content) : Spells rest (bytes ++ text) (bytes ++ content) := by
  induction bytes with
  | nil => exact h
  | cons head tail ih =>
      obtain ⟨hhead, htail⟩ := List.forall_mem_cons.mp hbytes
      exact (ih htail).byte hhead.1 hhead.2.1 hhead.2.2

theorem escape {letter value : UInt8} (hletter : escaped letter = some value)
    (h : Spells rest text content) : Spells rest (0x5C :: letter :: text) (value :: content) := by
  intro offset
  obtain ⟨pieces, stop, hpieces, hstop, hcontent⟩ := h (offset + 2)
  have hunit : ascii letter ≠ 'u' := by
    intro hu
    rw [escaped, hu] at hletter
    cases hletter
  refine ⟨(.escape value, offset + 2) :: pieces, stop, ?_, ?_, ?_⟩
  · rw [List.cons_append, List.cons_append, piecesOf.eq_def]
    dsimp only
    rw [if_neg hunit, hletter, hpieces]
    rfl
  · rw [hstop, List.length_cons, List.length_cons]
    omega
  · rw [contentBytes, hcontent]
    rfl

/-- Four hexadecimal digits stand for a character that is no surrogate. -/
theorem unit {a b c d : UInt8} {value : Nat} (hvalue : hexUnit a b c d = some value)
    (hplain : value < 0xD800) (h : Spells rest text content) :
    Spells rest (0x5C :: 0x75 :: a :: b :: c :: d :: text)
      (String.utf8EncodeChar (Char.ofNat value) ++ content) := by
  intro offset
  obtain ⟨pieces, stop, hpieces, hstop, hcontent⟩ := h (offset + 6)
  refine ⟨(.unit value, offset + 6) :: pieces, stop, ?_, ?_, ?_⟩
  · have hmark : ascii 0x75 = 'u' := rfl
    rw [List.cons_append, List.cons_append, piecesOf.eq_def]
    dsimp only
    rw [if_pos hmark]
    dsimp only [List.cons_append]
    rw [hvalue, hpieces]
    rfl
  · rw [hstop]
    simp only [List.length_cons]
    omega
  · have htrailing : isTrailing value = false := by
      rw [isTrailing, Bool.and_eq_false_iff]
      exact .inl (decide_eq_false (by omega))
    have hleading : isLeading value = false := by
      rw [isLeading, Bool.and_eq_false_iff]
      exact .inl (decide_eq_false (by omega))
    rw [contentBytes.eq_def]
    dsimp only
    rw [htrailing, if_neg Bool.false_ne_true, hleading, if_neg Bool.false_ne_true, hcontent]
    rfl

end Spells

def hexByte (digit : Nat) : UInt8 := UInt8.ofNat (if digit < 10 then 48 + digit else 87 + digit)

theorem bytes_control : ∀ n < 0x20,
    Text.bytes ("\\u00" ++ (if n < 0x10 then "0" else "") ++ Text.hex n)
      = [0x5C, 0x75, 0x30, 0x30, hexByte (n / 16), hexByte (n % 16)] := by
  decide

theorem hexUnit_control : ∀ n < 0x20,
    hexUnit 0x30 0x30 (hexByte (n / 16)) (hexByte (n % 16)) = some n := by
  decide

theorem Spells.plainChar {rest text content : List UInt8} {c : Char} (hcontrol : 0x20 ≤ c.toNat)
    (hquote : c.toNat ≠ 0x22) (hescape : c.toNat ≠ 0x5C) (h : Spells rest text content) :
    Spells rest (String.utf8EncodeChar c ++ text) (String.utf8EncodeChar c ++ content) := by
  refine h.bytes fun byte hmem => ?_
  by_cases hascii : c.toNat < 0x80
  · have hsize : c.toNat < UInt8.size := Nat.lt_trans hascii (by decide)
    rw [Text.utf8EncodeChar_of_lt hascii, List.mem_singleton] at hmem
    rw [hmem, UInt8.toNat_ofNat_of_lt' hsize]
    exact ⟨hcontrol, hquote, hescape⟩
  · have hbyte := Text.le_of_mem_utf8EncodeChar (Nat.le_of_not_lt hascii) hmem
    omega

/-- What is written of a character stands for the character. -/
theorem Spells.escapedChar {rest text content : List UInt8} (c : Char) (h : Spells rest text content) :
    Spells rest (Text.bytes (escapedChar c) ++ text) (String.utf8EncodeChar c ++ content) := by
  unfold Json.escapedChar
  split
  next => exact h.escape rfl
  next => exact h.escape rfl
  next => exact h.escape rfl
  next => exact h.escape rfl
  next => exact h.escape rfl
  next => exact h.escape rfl
  next => exact h.escape rfl
  next hquote hescape _ _ _ _ _ =>
    split
    next hcontrol =>
      have hunit := h.unit (hexUnit_control c.toNat hcontrol) (by omega)
      rw [Char.ofNat_toNat] at hunit
      rw [bytes_control c.toNat hcontrol]
      exact hunit
    next hcontrol =>
      have hplain : Text.bytes c.toString = String.utf8EncodeChar c := by
        rw [Text.bytes_eq_flatMap]
        simp
      have hne : ∀ other : Char, c ≠ other → c.toNat ≠ other.toNat := fun other hne hsame =>
        hne (Char.toNat_inj.mp hsame)
      rw [hplain]
      exact h.plainChar (Nat.le_of_not_lt hcontrol) (hne _ hquote) (hne _ hescape)

/-- The bytes of a text as it is written between quotes. -/
def spelled (s : String) : List UInt8 := s.toList.flatMap fun c => Text.bytes (escapedChar c)

theorem bytes_quoteText (s : String) :
    Text.bytes (quoteText s) = 0x22 :: (spelled s ++ [0x22]) := by
  have hfold : ∀ (cs : List Char) (shown : String),
      Text.bytes (cs.foldl (fun shown c => shown ++ escapedChar c) shown)
        = Text.bytes shown ++ cs.flatMap fun c => Text.bytes (escapedChar c) := by
    intro cs
    induction cs with
    | nil => intro shown; simp
    | cons c cs ih =>
        intro shown
        rw [List.foldl_cons, ih, Text.bytes_append, List.flatMap_cons, List.append_assoc]
  rw [quoteText, Text.bytes_append, Text.bytes_append, hfold]
  rfl

theorem spells_spelled (rest : List UInt8) (s : String) : Spells rest (spelled s) (Text.bytes s) := by
  rw [spelled, Text.bytes_eq_flatMap]
  induction s.toList with
  | nil => exact Spells.nil
  | cons c cs ih => exact ih.escapedChar c

theorem first_quoteText (s : String) (rest : List UInt8) (start : Nat) :
    first 0x22 (spelled s ++ 0x22 :: rest) start
      = ⟨.text (.ok s), start, start + (spelled s).length + 2⟩ := by
  obtain ⟨pieces, stop, hpieces, hstop, hcontent⟩ := spells_spelled rest s (start + 1)
  change textAfter start (spelled s ++ 0x22 :: rest) = _
  have hread : content pieces (.closed stop) stop = .ok s := by
    rw [content, hcontent]
    dsimp only
    rw [Text.ofBytes?_bytes]
  rw [textAfter, hpieces]
  dsimp only
  rw [hread, hstop]
  congr 1
  omega

/-! ### Integers -/

/-- No byte that follows goes on with a number. -/
def EndsNumber (rest : List UInt8) : Prop :=
  ∀ byte ∈ rest.head?, isDigit byte = false ∧ ascii byte ≠ '.' ∧ ascii byte ≠ 'e' ∧ ascii byte ≠ 'E'

def digits (n : Nat) : List UInt8 := (Nat.toDigits 10 n).map fun c => UInt8.ofNat c.toNat

theorem bytes_repr (n : Nat) : Text.bytes (Nat.repr n) = digits n := by
  have hdigits : ∀ c ∈ Nat.toDigits 10 n, String.utf8EncodeChar c = [UInt8.ofNat c.toNat] := by
    intro c hmem
    have hdigit := Nat.isDigit_of_mem_toDigits (by decide) (by decide) hmem
    apply Text.utf8EncodeChar_of_lt
    have hhigh : c.toNat ≤ 57 := (Char.isDigit_iff_toNat.mp hdigit).2
    omega
  rw [Nat.repr, Text.bytes_ofList, digits]
  generalize Nat.toDigits 10 n = cs at hdigits
  induction cs with
  | nil => rfl
  | cons c cs ih =>
      obtain ⟨hhead, htail⟩ := List.forall_mem_cons.mp hdigits
      rw [List.flatMap_cons, hhead, ih htail]
      rfl

theorem digits_of_lt : ∀ n < 10, digits n = [UInt8.ofNat (48 + n)] := by decide

theorem digits_of_le {n : Nat} (hn : 10 ≤ n) :
    digits n = digits (n / 10) ++ [UInt8.ofNat (48 + n % 10)] := by
  have hdigit : ∀ d < 10, UInt8.ofNat (Nat.digitChar d).toNat = UInt8.ofNat (48 + d) := by decide
  rw [digits, Nat.toDigits_of_base_le (by decide) hn, List.map_append, List.map_singleton,
    hdigit _ (Nat.mod_lt n (by decide))]
  rfl

theorem isDigit_of_mem_digits {n : Nat} : ∀ byte ∈ digits n, isDigit byte = true := by
  have hdigit : ∀ d < 10, isDigit (UInt8.ofNat (48 + d)) = true := by decide
  induction n using Nat.strongRecOn with
  | ind n ih =>
      intro byte hmem
      rcases Nat.lt_or_ge n 10 with hlt | hge
      · rw [digits_of_lt n hlt, List.mem_singleton] at hmem
        exact hmem ▸ hdigit n hlt
      · rw [digits_of_le hge, List.mem_append, List.mem_singleton] at hmem
        rcases hmem with hmem | rfl
        · exact ih (n / 10) (by omega) byte hmem
        · exact hdigit _ (Nat.mod_lt n (by decide))

/-- There are digits, and those of a positive number do not begin with a zero. -/
theorem digits_eq_cons (n : Nat) :
    ∃ first rest, digits n = first :: rest ∧ (0 < n → ascii first ≠ '0') := by
  have hdigit : ∀ d < 10, 0 < d → ascii (UInt8.ofNat (48 + d)) ≠ '0' := by decide
  induction n using Nat.strongRecOn with
  | ind n ih =>
      rcases Nat.lt_or_ge n 10 with hlt | hge
      · exact ⟨_, [], digits_of_lt n hlt, hdigit n hlt⟩
      · obtain ⟨first, rest, hdigits, hfirst⟩ := ih (n / 10) (by omega)
        refine ⟨first, rest ++ [UInt8.ofNat (48 + n % 10)], ?_, fun _ => hfirst (by omega)⟩
        rw [digits_of_le hge, hdigits]
        rfl

theorem takeDigits_concat {value taken : Nat} {bytes : List UInt8} {digit : UInt8}
    (h : takeDigits value bytes = (taken, 0)) (hsize : taken * 10 + digitValue digit < UInt64.size) :
    takeDigits value (bytes ++ [digit]) = (taken * 10 + digitValue digit, 0) := by
  induction bytes generalizing value with
  | nil =>
      cases h
      rw [List.nil_append, takeDigits, if_pos hsize]
      rfl
  | cons head tail ih =>
      rw [takeDigits] at h
      rw [List.cons_append, takeDigits]
      split at h
      next hnext =>
        rw [if_pos hnext]
        exact ih h
      next => cases h

/-- The digits of a number of 64 bits are taken in as that number. -/
theorem takeDigits_digits {n : Nat} (hn : n < UInt64.size) : takeDigits 0 (digits n) = (n, 0) := by
  have hdigit : ∀ d < 10, digitValue (UInt8.ofNat (48 + d)) = d := by decide
  induction n using Nat.strongRecOn with
  | ind n ih =>
      rcases Nat.lt_or_ge n 10 with hlt | hge
      · rw [digits_of_lt n hlt, takeDigits, hdigit n hlt, Nat.zero_mul, Nat.zero_add, if_pos hn]
        rfl
      · have hvalue : n / 10 * 10 + digitValue (UInt8.ofNat (48 + n % 10)) = n := by
          rw [hdigit _ (Nat.mod_lt n (by decide))]
          omega
        have htaken := ih (n / 10) (by omega) (by omega)
        have hconcat := takeDigits_concat htaken (hvalue.symm ▸ hn)
        rw [digits_of_le hge, hconcat, hvalue]

theorem afterWhole_of_endsNumber {rest : List UInt8} (hends : EndsNumber rest) (n : Numeral)
    (start offset : Nat) : afterWhole n start offset rest = numberToken n start offset := by
  cases rest with
  | nil => rfl
  | cons byte rest =>
      obtain ⟨-, hpoint, hlower, hupper⟩ := hends byte rfl
      have hmark : marksExponent (byte :: rest) = false := by
        simp [marksExponent, hlower, hupper]
      rw [afterWhole, if_neg hpoint, hmark]
      rfl

theorem takeWhile_digits {rest : List UInt8} (hends : EndsNumber rest) (n : Nat) :
    (digits n ++ rest).takeWhile isDigit = digits n := by
  have hrest : rest.takeWhile isDigit = [] := by
    cases rest with
    | nil => rfl
    | cons byte rest => rw [List.takeWhile_cons_of_neg (by simp [(hends byte rfl).1])]
  rw [List.takeWhile_append_of_pos isDigit_of_mem_digits, hrest, List.append_nil]

theorem dropWhile_digits {rest : List UInt8} (hends : EndsNumber rest) (n : Nat) :
    (digits n ++ rest).dropWhile isDigit = rest := by
  rw [List.dropWhile_append_of_pos isDigit_of_mem_digits]
  cases rest with
  | nil => rfl
  | cons byte rest => rw [List.dropWhile_cons_of_neg (by simp [(hends byte rfl).1])]

theorem numberAfter_digits {rest : List UInt8} (hends : EndsNumber rest) (negative : Bool)
    (n start offset : Nat) :
    numberAfter negative start offset (digits n ++ rest)
      = numberToken ⟨negative, digits n, [], none⟩ start (offset + (digits n).length) := by
  have htaken := takeWhile_digits hends n
  have hleft := dropWhile_digits hends n
  rcases Nat.eq_zero_or_pos n with rfl | hpos
  · -- A zero stands alone, so what follows is looked at once more.
    have hzero : isDigit 0x30 = true := rfl
    have hchar : ascii 0x30 = '0' := rfl
    change numberAfter negative start offset (0x30 :: rest) = numberToken ⟨negative, [0x30], [], none⟩ _ _
    cases rest with
    | nil => rfl
    | cons byte rest =>
        have hbyte := (hends byte rfl).1
        simp only [numberAfter, hzero, hchar, hbyte, not_true, if_true, if_false, Bool.false_eq_true]
        exact afterWhole_of_endsNumber hends _ _ _
  · obtain ⟨first, tail, hdigits, hnonzero⟩ := digits_eq_cons n
    have hfirst := hnonzero hpos
    have hmem : first ∈ digits n := by simp [hdigits]
    have hdigit := isDigit_of_mem_digits first hmem
    rw [hdigits, List.cons_append] at htaken hleft ⊢
    simp only [numberAfter, hdigit, hfirst, htaken, hleft, not_true, if_false]
    exact afterWhole_of_endsNumber hends _ _ _

theorem ascii_ne_of_isDigit {byte : UInt8} (hdigit : isDigit byte = true) (c : Char)
    (hc : c.isDigit = false) : ascii byte ≠ c := by
  rintro rfl
  rw [isDigit, hc] at hdigit
  cases hdigit

theorem isSpace_of_isDigit {byte : UInt8} (hdigit : isDigit byte = true) : isSpace byte = false := by
  have hother := ascii_ne_of_isDigit hdigit
  unfold isSpace
  split
  next hc => exact absurd hc (hother _ rfl)
  next hc => exact absurd hc (hother _ rfl)
  next hc => exact absurd hc (hother _ rfl)
  next hc => exact absurd hc (hother _ rfl)
  next => rfl

theorem first_of_isDigit {byte : UInt8} (hdigit : isDigit byte = true) (rest : List UInt8) (start : Nat) :
    first byte rest start = numberAfter false start start (byte :: rest) := by
  have hother := ascii_ne_of_isDigit hdigit
  unfold first
  dsimp only
  split
  next hc => exact absurd hc (hother _ rfl)
  next hc => exact absurd hc (hother _ rfl)
  next hc => exact absurd hc (hother _ rfl)
  next hc => exact absurd hc (hother _ rfl)
  next hc => exact absurd hc (hother _ rfl)
  next hc => exact absurd hc (hother _ rfl)
  next hc => exact absurd hc (hother _ rfl)
  next hc => exact absurd hc (hother _ rfl)
  next hc => exact absurd hc (hother _ rfl)
  next hc => exact absurd hc (hother _ rfl)
  next hc => exact absurd hc (hother _ rfl)
  next => exact if_pos hdigit

theorem numberToken_digits {n : Nat} (hn : n < UInt64.size) (start stop : Nat) :
    numberToken ⟨false, digits n, [], none⟩ start stop = ⟨.number (.ok (.integer n)), start, stop⟩ := by
  have hvalue : Numeral.value ⟨false, digits n, [], none⟩ = .ok (.integer n) := by
    rw [Numeral.value, takeDigits_digits hn]
    rfl
  rw [numberToken, hvalue]

theorem numberToken_negative {n : Nat} (hpos : 0 < n) (hn : n ≤ 0x8000000000000000) (start stop : Nat) :
    numberToken ⟨true, digits n, [], none⟩ start stop = ⟨.number (.ok (.integer (-n))), start, stop⟩ := by
  have hsize : n < UInt64.size := Nat.lt_of_le_of_lt hn (by decide)
  have hvalue : Numeral.value ⟨true, digits n, [], none⟩ = .ok (.integer (-n)) := by
    have hrange : ¬ (n = 0 ∨ 0x8000000000000000 < n) := by omega
    rw [Numeral.value, takeDigits_digits hsize]
    simp [hrange]
  rw [numberToken, hvalue]

/-! ### Tokens -/

/-- Wherever the text stands, it is cut into tokens of these kinds. -/
def Reads (text : List UInt8) (kinds : List Kind) : Prop :=
  ∀ offset, (listFrom offset text).map Token.kind = kinds

namespace Reads

variable {rest : List UInt8} {kinds : List Kind}

theorem nil : Reads [] [] := by
  intro offset
  rw [listFrom]
  rfl

theorem space (h : Reads rest kinds) (byte : UInt8) (hspace : isSpace byte = true) :
    Reads (byte :: rest) kinds := by
  intro offset
  rw [listFrom, if_pos hspace]
  exact h (offset + 1)

theorem spaces (h : Reads rest kinds) {blanks : List UInt8}
    (hblanks : ∀ byte ∈ blanks, isSpace byte = true) : Reads (blanks ++ rest) kinds := by
  induction blanks with
  | nil => exact h
  | cons byte blanks ih =>
      obtain ⟨hbyte, hblanks⟩ := List.forall_mem_cons.mp hblanks
      exact (ih hblanks).space byte hbyte

/-- A token is cut off where it stops. -/
theorem token {byte : UInt8} {lexeme : List UInt8} {kind : Kind} (hspace : isSpace byte = false)
    (hlast : kind.isLast = false)
    (hfirst : ∀ start, first byte (lexeme ++ rest) start = ⟨kind, start, start + lexeme.length + 1⟩)
    (h : Reads rest kinds) : Reads (byte :: (lexeme ++ rest)) (kind :: kinds) := by
  intro offset
  have hdrop : (lexeme ++ rest).drop (offset + lexeme.length + 1 - (offset + 1)) = rest := by
    rw [show offset + lexeme.length + 1 - (offset + 1) = lexeme.length by omega]
    exact List.drop_left
  rw [listFrom, if_neg (by simp [hspace])]
  dsimp only
  rw [hfirst offset]
  dsimp only
  rw [if_neg (by simp [hlast]), hdrop, List.map_cons, h]

theorem mark (h : Reads rest kinds) (byte : UInt8) (hspace : isSpace byte = false)
    (hfirst : ∀ start, first byte rest start = ⟨.mark (ascii byte), start, start + 1⟩) :
    Reads (byte :: rest) (.mark (ascii byte) :: kinds) := by
  have hlast : (Kind.mark (ascii byte)).isLast = false := rfl
  exact @token _ _ byte [] _ hspace hlast hfirst h

theorem null (h : Reads rest kinds) : Reads (Text.bytes "null" ++ rest) (.null :: kinds) :=
  @token _ _ 0x6E (Text.bytes "ull") _ rfl rfl (fun _ => rfl) h

theorem flag (value : Bool) (h : Reads rest kinds) :
    Reads (Text.bytes (if value then "true" else "false") ++ rest) (.flag value :: kinds) := by
  cases value with
  | true => exact @token _ _ 0x74 (Text.bytes "rue") _ rfl rfl (fun _ => rfl) h
  | false => exact @token _ _ 0x66 (Text.bytes "alse") _ rfl rfl (fun _ => rfl) h

theorem quoteText (s : String) (h : Reads rest kinds) :
    Reads (Text.bytes (Json.quoteText s) ++ rest) (.text (.ok s) :: kinds) := by
  have hfirst : ∀ start, first 0x22 (spelled s ++ [0x22] ++ rest) start
      = ⟨.text (.ok s), start, start + (spelled s ++ [0x22]).length + 1⟩ := by
    intro start
    rw [List.append_assoc, List.length_append]
    exact first_quoteText s rest start
  rw [bytes_quoteText]
  exact token rfl rfl hfirst h

theorem integer {n : Int} (hlow : -0x8000000000000000 ≤ n) (hhigh : n < 0x10000000000000000)
    (hends : EndsNumber rest) (h : Reads rest kinds) :
    Reads (Text.bytes (toString n) ++ rest) (.number (.ok (.integer n)) :: kinds) := by
  cases n with
  | ofNat n =>
      have hn : n < UInt64.size := Int.ofNat_lt.mp hhigh
      obtain ⟨byte, lexeme, hdigits, -⟩ := digits_eq_cons n
      have hmem : byte ∈ digits n := by simp [hdigits]
      have hdigit := isDigit_of_mem_digits byte hmem
      have hfirst : ∀ start, first byte (lexeme ++ rest) start
          = ⟨.number (.ok (.integer n)), start, start + lexeme.length + 1⟩ := by
        intro start
        rw [first_of_isDigit hdigit, ← List.cons_append, ← hdigits, numberAfter_digits hends,
          numberToken_digits hn, hdigits, List.length_cons, Nat.add_assoc]
      change Reads (Text.bytes (Nat.repr n) ++ rest) _
      rw [bytes_repr, hdigits]
      exact token (isSpace_of_isDigit hdigit) rfl hfirst h
  | negSucc n =>
      have hn : n + 1 ≤ 0x8000000000000000 := by omega
      have hfirst : ∀ start, first 0x2D (digits (n + 1) ++ rest) start
          = ⟨.number (.ok (.integer (Int.negSucc n))), start, start + (digits (n + 1)).length + 1⟩ := by
        intro start
        change numberAfter true start (start + 1) (digits (n + 1) ++ rest) = _
        rw [numberAfter_digits hends, numberToken_negative (Nat.succ_pos n) hn, Int.negSucc_eq]
        congr 1
        omega
      change Reads (Text.bytes ("-" ++ Nat.repr (n + 1)) ++ rest) _
      rw [Text.bytes_append, bytes_repr]
      exact token rfl rfl hfirst h

end Reads

end Token

end OperatorConfig.Json
