import OperatorConfig.Proofs.Success
import OperatorConfig.Url.Reading

/-!
# What the parts of a URL are written with

A URL can be told apart into its parts because the characters that set them apart do not stand within them.
In the name and the password of a user, in a path and in a query they are written as bytes; a host of a
URL beyond the web that holds one is refused, a domain name is looked up without them, and an address has
none but the colons between the numbers of version 6, which stand in brackets.
-/

namespace OperatorConfig

namespace Text.Percent

theorem digit_mem : ∀ n < 16, digit n ∈ "0123456789ABCDEF".toList := by decide

/-- A text written with bytes has the characters that the set leaves alone and those of the bytes. -/
theorem mem_encodeChars {set : Char → Bool} {cs : List Char} {c : Char} (h : c ∈ encodeChars set cs) :
    (c ∈ cs ∧ set c = false) ∨ c ∈ "%0123456789ABCDEF".toList := by
  obtain ⟨source, hsource, hc⟩ := List.mem_flatMap.mp h
  by_cases hset : set source = true
  · rw [if_pos hset] at hc
    obtain ⟨value, -, hc⟩ := List.mem_flatMap.mp hc
    have hvalue := value.toNat_lt
    have hhigh := digit_mem (value.toNat / 16) (by omega)
    have hlow := digit_mem (value.toNat % 16) (by omega)
    simp only [byte, List.mem_cons, List.not_mem_nil, or_false] at hc
    rcases hc with rfl | rfl | rfl
    · exact .inr List.mem_cons_self
    · exact .inr (List.mem_cons_of_mem '%' hhigh)
    · exact .inr (List.mem_cons_of_mem '%' hlow)
  · rw [if_neg hset] at hc
    obtain rfl := List.mem_singleton.mp hc
    exact .inl ⟨hsource, by simpa using hset⟩

theorem toList_encode (set : Char → Bool) (cs : List Char) : (encode set cs).toList = encodeChars set cs :=
  String.toList_ofList

theorem encodeChars_of_forall {set : Char → Bool} {cs : List Char} (h : ∀ c ∈ cs, set c = false) :
    encodeChars set cs = cs := by
  induction cs with
  | nil => rfl
  | cons c rest ih =>
      obtain ⟨hc, hrest⟩ := List.forall_mem_cons.mp h
      have hrest : (rest.flatMap fun c => if set c then (String.utf8EncodeChar c).flatMap byte else [c]) = rest :=
        ih hrest
      rw [encodeChars, List.flatMap_cons, hrest, hc]
      rfl

end Text.Percent

namespace Url

def delimiters : List Char := [':', '/', '?', '#', '[', ']', '@']

def Undelimited (cs : List Char) : Prop := ∀ c ∈ cs, c ∉ delimiters

instance (cs : List Char) : Decidable (Undelimited cs) :=
  List.decidableBAll _ cs

theorem Undelimited.not_mem {cs : List Char} (h : Undelimited cs) {c : Char} (hc : c ∈ delimiters) : c ∉ cs :=
  fun hmem => h c hmem hc

theorem Undelimited.append {cs ds : List Char} (hcs : Undelimited cs) (hds : Undelimited ds) :
    Undelimited (cs ++ ds) :=
  fun c hc => (List.mem_append.mp hc).elim (hcs c) (hds c)

theorem Undelimited.reverse {cs : List Char} (h : Undelimited cs) : Undelimited cs.reverse :=
  fun c hc => h c (List.mem_reverse.mp hc)

theorem undelimited_encodeChars {set : Char → Bool} {cs : List Char}
    (h : ∀ c ∈ cs, c ∈ delimiters → set c = true) : Undelimited (Text.Percent.encodeChars set cs) := by
  intro c hc hdelimiter
  rcases Text.Percent.mem_encodeChars hc with ⟨hmem, hset⟩ | hbyte
  · rw [h c hmem hdelimiter] at hset
    cases hset
  · have hbytes : Undelimited "%0123456789ABCDEF".toList := by decide
    exact hbytes c hbyte hdelimiter

theorem undelimited_encode_user (cs : List Char) :
    Undelimited (Text.Percent.encode Text.Percent.user cs).toList := by
  have huser : ∀ c ∈ delimiters, Text.Percent.user c = true := List.all_eq_true.mp (by decide)
  rw [Text.Percent.toList_encode]
  exact undelimited_encodeChars fun c _ hc => huser c hc

theorem toNat_lt_of_isAlphanum {c : Char} (h : c.isAlphanum = true) : c.toNat < 128 := by
  have hupper (h : c.isUpper = true) : c.toNat ≤ 'Z'.toNat := UInt32.le_iff_toNat_le.mp (of_decide_eq_true h).2
  have hlower (h : c.isLower = true) : c.toNat ≤ 'z'.toNat :=
    UInt32.le_iff_toNat_le.mp (of_decide_eq_true ((Bool.and_eq_true _ _).mp h).2)
  have hdigit (h : c.isDigit = true) : c.toNat ≤ '9'.toNat := (Char.isDigit_iff_toNat.mp h).2
  rcases (Bool.or_eq_true _ _).mp h with hletter | h
  · rcases (Bool.or_eq_true _ _).mp hletter with h | h
    · exact Nat.lt_of_le_of_lt (hupper h) (by decide)
    · exact Nat.lt_of_le_of_lt (hlower h) (by decide)
  · exact Nat.lt_of_le_of_lt (hdigit h) (by decide)

/-- What holds of the first 128 characters holds of every character of ASCII. -/
theorem of_ascii {p : Char → Prop} (h : ∀ n < 128, p (Char.ofNat n)) {c : Char} (hc : c.toNat < 128) : p c := by
  have hn := h c.toNat hc
  rwa [Char.ofNat_toNat] at hn

/-! ### Domain names -/

namespace Domain

namespace Punycode

theorem digitChar_mem : ∀ n < 36, digitChar n ∈ "abcdefghijklmnopqrstuvwxyz0123456789".toList := by decide

theorem undelimited_digitChar {n : Nat} (hn : n < 36) : digitChar n ∉ delimiters := by
  have hdigits : Undelimited "abcdefghijklmnopqrstuvwxyz0123456789".toList := by decide
  exact hdigits _ (digitChar_mem n hn)

theorem undelimited_digits (bias place n : Nat) : Undelimited (digits bias place n) := by
  have hlimit := threshold_le bias place
  fun_induction digits bias place n with
  | case1 place n limit h ih =>
      intro c hc
      rcases List.mem_cons.mp hc with rfl | hc
      · have hmod := Nat.mod_lt (n - limit) (show 0 < base - limit by unfold base; omega)
        refine undelimited_digitChar ?_
        unfold base at *
        omega
      · exact ih (threshold_le bias _) c hc
  | case2 place n limit h =>
      intro c hc
      rw [List.mem_singleton.mp hc]
      exact undelimited_digitChar (by omega)

theorem undelimited_pass (basic code : Nat) {state : Encoding} (h : Undelimited state.output) (c : Char) :
    Undelimited (state.pass basic code c).output := by
  unfold Encoding.pass
  split
  · exact h
  · split
    · exact (undelimited_digits state.bias base state.delta).reverse.append h
    · exact h

theorem undelimited_foldl_pass (basic code : Nat) (label : List Char) {state : Encoding}
    (h : Undelimited state.output) : Undelimited (label.foldl (Encoding.pass basic code) state).output := by
  induction label generalizing state with
  | nil => exact h
  | cons c rest ih => exact ih (undelimited_pass basic code h c)

theorem undelimited_run (label : List Char) (basic : Nat) (codes : List Nat) (next : Nat) {state : Encoding}
    (h : Undelimited state.output) : Undelimited (Encoding.run label basic next state codes).output := by
  induction codes generalizing next state with
  | nil => exact h
  | cons code codes ih =>
      refine ih (code + 1) ?_
      exact undelimited_foldl_pass basic code label h

theorem undelimited_encode {label : List Char} (h : Undelimited label) : Undelimited (encode label) := by
  refine Undelimited.append (Undelimited.append ?_ ?_) ?_
  · exact fun c hc => h c ((List.mem_filter.mp hc).1)
  · split <;> decide
  · intro c hc
    exact undelimited_run label _ _ _ (by decide : Undelimited []) c (List.mem_reverse.mp hc)

end Punycode

theorem undelimited_of_mem_labels {held cs label : List Char} (hheld : Undelimited held) (hcs : Undelimited cs)
    (hlabel : label ∈ labels held cs) : Undelimited label := by
  fun_induction labels held cs with
  | case1 held =>
      rw [List.mem_singleton.mp hlabel]
      exact hheld.reverse
  | case2 held rest ih =>
      rcases List.mem_cons.mp hlabel with rfl | hlabel
      · exact hheld.reverse
      · exact ih (by decide) (fun c hc => hcs c (List.mem_cons_of_mem _ hc)) hlabel
  | case3 held c rest hpoint ih =>
      obtain ⟨hc, hrest⟩ := List.forall_mem_cons.mp hcs
      exact ih (List.forall_mem_cons.mpr ⟨hc, hheld⟩) hrest hlabel

theorem undelimited_label? {label : List Char} {written : Label} (h : Undelimited label)
    (hwritten : label? label = some written) : Undelimited written.written := by
  unfold label? at hwritten
  split at hwritten
  · obtain ⟨meant, -, hmeant⟩ := Option.bind_eq_some_iff.mp hwritten
    split at hmeant
    · cases hmeant
      exact h
    · cases hmeant
  · split at hwritten
    · cases hwritten
      exact h
    · split at hwritten
      · cases hwritten
        exact Undelimited.append (by decide) (Punycode.undelimited_encode h)
      · cases hwritten

theorem undelimited_joined {names : List (List Char)} (h : ∀ name ∈ names, Undelimited name) :
    Undelimited (joined names) := by
  fun_induction joined names with
  | case1 => decide
  | case2 name => exact h name List.mem_cons_self
  | case3 name rest hrest ih =>
      obtain ⟨hname, hnames⟩ := List.forall_mem_cons.mp h
      exact hname.append (List.forall_mem_cons.mpr ⟨by decide, ih hnames⟩)

theorem exists_of_mem_mapM {α β : Type} {f : α → Option β} {as : List α} {bs : List β}
    (h : as.mapM f = some bs) {b : β} (hb : b ∈ bs) : ∃ a ∈ as, f a = some b := by
  induction as generalizing bs with
  | nil =>
      cases h
      cases hb
  | cons a as ih =>
      rw [List.mapM_cons] at h
      obtain ⟨first, hfirst, h⟩ := Option.bind_eq_some_iff.mp h
      obtain ⟨rest, hrest, h⟩ := Option.bind_eq_some_iff.mp h
      cases h
      rcases List.mem_cons.mp hb with rfl | hb
      · exact ⟨a, List.mem_cons_self, hfirst⟩
      · obtain ⟨source, hsource, hb⟩ := ih hrest hb
        exact ⟨source, List.mem_cons_of_mem a hsource, hb⟩

theorem isForbidden_of_delimiter : ∀ c ∈ delimiters, isForbidden c = true := by simp [delimiters, isForbidden]

theorem undelimited_toAscii {bytes : List UInt8} {name : List Char} (h : toAscii bytes = some name) :
    Undelimited name := by
  obtain ⟨decoded, -, h⟩ := Option.bind_eq_some_iff.mp h
  obtain ⟨uniform, -, h⟩ := Option.bind_eq_some_iff.mp h
  split at h
  · cases h
  · rename_i hallowed
    obtain ⟨written, hwritten, h⟩ := Option.bind_eq_some_iff.mp h
    split at h
    · cases h
      have huniform : Undelimited uniform := fun c hc hdelimiter =>
        hallowed (List.any_eq_true.mpr ⟨c, hc, isForbidden_of_delimiter c hdelimiter⟩)
      refine undelimited_joined fun name hname => ?_
      obtain ⟨label, hlabel, rfl⟩ := List.mem_map.mp hname
      obtain ⟨source, hsource, hlabel⟩ := exists_of_mem_mapM hwritten hlabel
      exact undelimited_label? (undelimited_of_mem_labels (by decide) huniform hsource) hlabel
    · cases h

end Domain

/-! ### Addresses -/

namespace Address

theorem mem_toDigits {base : Nat} (hlow : 1 < base) (hhigh : base ≤ 16) {n : Nat} {c : Char}
    (h : c ∈ Nat.toDigits base n) : c ∈ "0123456789abcdef".toList := by
  have hdigit : ∀ n < 16, n.digitChar ∈ "0123456789abcdef".toList := by decide
  induction n using Nat.strongRecOn with
  | ind n ih =>
      rw [Nat.toDigits_eq_if hlow] at h
      split at h
      · rename_i hlt
        rw [List.mem_singleton.mp h]
        exact hdigit n (by omega)
      · rcases List.mem_append.mp h with h | h
        · exact ih (n / base) (Nat.div_lt_self (by omega) hlow) h
        · have hmod := Nat.mod_lt n (show 0 < base by omega)
          rw [List.mem_singleton.mp h]
          exact hdigit (n % base) (by omega)

theorem undelimited_hexDigits : Undelimited "0123456789abcdef".toList := by decide

theorem undelimited_toDigits (n : Nat) : Undelimited (Nat.toDigits 10 n) := by
  intro c hc
  exact undelimited_hexDigits c (mem_toDigits (by decide) (by decide) hc)

theorem undelimited_version4Text (address : Nat) : Undelimited (version4Text address).toList := by
  have hpoint : Undelimited ['.'] := by decide
  have htext : (version4Text address).toList
      = Nat.toDigits 10 (address / 0x1000000) ++ ['.'] ++ Nat.toDigits 10 (address / 0x10000 % 256) ++ ['.']
        ++ Nat.toDigits 10 (address / 0x100 % 256) ++ ['.'] ++ Nat.toDigits 10 (address % 256) := by
    simp [version4Text]
    rfl
  rw [htext]
  have hnumber := undelimited_toDigits
  exact ((((((hnumber _).append hpoint).append (hnumber _)).append hpoint).append (hnumber _)).append hpoint
    ).append (hnumber _)

theorem mem_intercalate {separator : List Char} {pieces : List (List Char)} {c : Char}
    (h : c ∈ separator.intercalate pieces) : c ∈ separator ∨ ∃ piece ∈ pieces, c ∈ piece := by
  induction pieces with
  | nil => cases h
  | cons piece rest ih =>
      cases rest with
      | nil => exact .inr ⟨piece, List.mem_cons_self, by simpa using h⟩
      | cons next rest =>
          rw [List.intercalate_cons_cons] at h
          rcases List.mem_append.mp h with h | h
          · rcases List.mem_append.mp h with h | h
            · exact .inr ⟨piece, List.mem_cons_self, h⟩
            · exact .inl h
          · exact (ih h).imp_right fun ⟨other, hother, hc⟩ => ⟨other, List.mem_cons_of_mem piece hother, hc⟩

theorem mem_version6Text {numbers : List Nat} {c : Char} (h : c ∈ (version6Text numbers).toList) :
    c ∈ ":0123456789abcdef".toList := by
  have hjoined {numbers : List Nat} (h : c ∈ (":".intercalate (numbers.map Text.hex)).toList) :
      c ∈ ":0123456789abcdef".toList := by
    rw [String.toList_intercalate, List.map_map] at h
    rcases mem_intercalate h with hcolon | ⟨digits, hdigits, hc⟩
    · rw [List.mem_singleton.mp hcolon]
      exact List.mem_cons_self
    · obtain ⟨n, -, rfl⟩ := List.mem_map.mp hdigits
      have hdigit : c ∈ (String.ofList (Nat.toDigits 16 n)).toList := hc
      rw [String.toList_ofList] at hdigit
      exact List.mem_cons_of_mem _ (mem_toDigits (by decide) (by decide) hdigit)
  unfold version6Text at h
  dsimp only at h
  split at h
  · exact hjoined h
  · rw [String.toList_append, String.toList_append] at h
    rcases List.mem_append.mp h with h | h
    · rcases List.mem_append.mp h with h | h
      · exact hjoined h
      · have hcolon : c = ':' := by simpa using h
        rw [hcolon]
        exact List.mem_cons_self
    · exact hjoined h

end Address

/-- A host as it is written: free of delimiters, or in brackets, between which there are only colons. -/
inductive HostText : List Char → Prop
  | name {cs : List Char} (free : Undelimited cs) : HostText cs
  | address {cs : List Char} (colons : ∀ c ∈ cs, c ∈ delimiters → c = ':') : HostText ('[' :: cs ++ [']'])

theorem isForbiddenInHost_of_delimiter : ∀ c ∈ delimiters, isForbiddenInHost c = true := by
  simp [delimiters, isForbiddenInHost]

theorem hostText_readBracketed {cs : List Char} {host : String} (h : readBracketed cs = .ok host) :
    HostText host.toList := by
  unfold readBracketed at h
  split at h
  · cases h
  · obtain ⟨address, -, h⟩ := bind_eq_ok_iff.mp h
    cases h
    have hbracketed : ("[" ++ Address.version6Text address ++ "]").toList
        = '[' :: (Address.version6Text address).toList ++ [']'] := by simp
    rw [hbracketed]
    refine .address fun c hc hdelimiter => ?_
    rcases List.mem_cons.mp (Address.mem_version6Text hc) with hcolon | hdigit
    · exact hcolon
    · exact absurd hdelimiter (Address.undelimited_hexDigits c hdigit)

theorem hostText_readHost {kind : Kind} {cs : List Char} {host : String} (h : readHost kind cs = .ok host) :
    HostText host.toList := by
  unfold readHost at h
  split at h
  · exact hostText_readBracketed h
  · split at h
    · dsimp only at h
      split at h
      · rename_i name hname
        split at h
        · cases h
        · split at h
          · obtain ⟨address, -, h⟩ := bind_eq_ok_iff.mp h
            cases h
            exact .name (Address.undelimited_version4Text address)
          · cases h
            rw [String.toList_ofList]
            exact .name (Domain.undelimited_toAscii hname)
      · cases h
    · split at h
      · cases h
      · rename_i hallowed
        cases h
        rw [Text.Percent.toList_encode]
        refine .name (undelimited_encodeChars fun c hc hdelimiter => ?_)
        exact absurd (List.any_eq_true.mpr ⟨c, hc, isForbiddenInHost_of_delimiter c hdelimiter⟩) hallowed

end Url

end OperatorConfig
