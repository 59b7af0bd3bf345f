import OperatorConfig.Proofs.Url.Path

/-!
# Taking a written URL apart

Whoever is given a URL looks for the characters that set its parts apart: the first colon ends the scheme,
the authority goes on to a slash, a question mark or a number sign, an `@` in it ends the credentials, and
so on. This needs no knowledge of schemes, hosts or paths. From the text of a URL that has been read from
a text it finds the very parts of that URL, also where the path has been replaced.
-/

namespace OperatorConfig.Url

/-! ### Parts by delimiters -/

def portIn? : List Char → Option Nat
  | ':' :: digits => some (Nat.ofDigitChars 10 digits 0)
  | _ => none

def Authority.takenApart (cs : List Char) : Authority :=
  let (credentials, cs) := (Text.splitFirst '@' cs).getD ([], cs)
  let (user, password) := (Text.splitFirst ':' credentials).elim (credentials, none)
    fun (user, password) => (user, some (String.ofList password))
  let size := hostLength false cs
  { user := String.ofList user
    password
    host := String.ofList (cs.take size)
    port := portIn? (cs.drop size) }

def fragmentIn? : List Char → Option String
  | '#' :: rest => some (String.ofList rest)
  | _ => none

/-- The query and the fragment that are written behind a path. -/
def suffixIn : List Char → Option String × Option String
  | '?' :: rest =>
      (some (String.ofList (rest.takeWhile (· ≠ '#'))), fragmentIn? (rest.dropWhile (· ≠ '#')))
  | cs => (none, fragmentIn? cs)

/-- Whether an authority goes on with the character, in any URL. -/
def inAuthority (c : Char) : Bool := c ≠ '/' && !endsPath c

def takenApart? (text : String) : Option Url := do
  let (scheme, rest) ← Text.splitFirst ':' text.toList
  let '/' :: '/' :: rest := rest | none
  let behind := rest.dropWhile inAuthority
  let (query, fragment) := suffixIn (behind.dropWhile (!endsPath ·))
  return {
    scheme := String.ofList scheme
    authority := some (.takenApart (rest.takeWhile inAuthority))
    path := String.ofList (behind.takeWhile (!endsPath ·))
    query
    fragment }

/-! ### Legible URLs -/

/-- An authority with no delimiters in its parts, apart from those of its host. -/
structure Authority.Legible (authority : Authority) : Prop where
  user : Undelimited authority.user.toList
  password : ∀ password ∈ authority.password, Undelimited password.toList
  host : HostText authority.host.toList

/-- A URL with an authority whose parts can be told apart in its text. -/
structure Legible (url : Url) (parts : Authority) : Prop where
  scheme : ':' ∉ url.scheme.toList
  authority : url.authority = some parts
  legible : parts.Legible
  guarded : url.guarded = false
  path : Path.Trailing url.path.toList
  query : ∀ query ∈ url.query, '#' ∉ query.toList

section Spans

variable {p : Char → Bool} {part rest : List Char}

theorem takeWhile_append_of_ends (hpart : ∀ c ∈ part, p c = true) (hrest : ∀ c ∈ rest.head?, p c = false) :
    (part ++ rest).takeWhile p = part := by
  have hnone : rest.takeWhile p = [] := by
    cases rest with
    | nil => rfl
    | cons c rest => rw [List.takeWhile_cons_of_neg (by simp [hrest c rfl])]
  rw [List.takeWhile_append_of_pos hpart, hnone, List.append_nil]

theorem dropWhile_append_of_ends (hpart : ∀ c ∈ part, p c = true) (hrest : ∀ c ∈ rest.head?, p c = false) :
    (part ++ rest).dropWhile p = rest := by
  rw [List.dropWhile_append_of_pos hpart, Text.dropWhile_eq_self hrest]

end Spans

/-! ### Authorities -/

theorem hostLength_append_of_undelimited {host rest : List Char} (hhost : Undelimited host)
    (hrest : ∀ c ∈ rest.head?, c = ':') : hostLength false (host ++ rest) = host.length := by
  induction host with
  | nil =>
      cases rest with
      | nil => rfl
      | cons c rest =>
          obtain rfl := hrest c rfl
          rfl
  | cons c host ih =>
      obtain ⟨hc, hhost⟩ := List.forall_mem_cons.mp hhost
      have hother : c ≠ ':' ∧ c ≠ '[' ∧ c ≠ ']' := by
        refine ⟨?_, ?_, ?_⟩ <;> rintro rfl <;> exact hc (by decide)
      rw [List.cons_append, hostLength, if_neg (by simp [hother.1]), if_neg hother.2.1, if_neg hother.2.2,
        ih hhost, List.length_cons, Nat.add_comm]

theorem hostLength_true_append {cs rest : List Char} (hcs : ∀ c ∈ cs, c ∈ delimiters → c = ':')
    (hrest : ∀ c ∈ rest.head?, c = ':') : hostLength true (cs ++ ']' :: rest) = cs.length + 1 := by
  induction cs with
  | nil =>
      have hnone : hostLength false ([] ++ rest) = 0 :=
        hostLength_append_of_undelimited (by decide) hrest
      rw [List.nil_append] at hnone ⊢
      rw [hostLength, if_neg (by decide), if_neg (by decide), if_pos rfl, hnone]
      rfl
  | cons c cs ih =>
      obtain ⟨hc, hcs⟩ := List.forall_mem_cons.mp hcs
      have hother : c ≠ '[' ∧ c ≠ ']' := by
        refine ⟨?_, ?_⟩ <;> rintro rfl <;> exact absurd (hc (by decide)) (by decide)
      rw [List.cons_append, hostLength, if_neg (by simp), if_neg hother.1, if_neg hother.2, ih hcs,
        List.length_cons]
      omega

/-- A host ends where the colon of a port stands, or with the authority. -/
theorem hostLength_append {host rest : List Char} (hhost : HostText host) (hrest : ∀ c ∈ rest.head?, c = ':') :
    hostLength false (host ++ rest) = host.length := by
  cases hhost with
  | name free => exact hostLength_append_of_undelimited free hrest
  | @address cs colons =>
      have hbracket : '[' :: cs ++ [']'] ++ rest = '[' :: (cs ++ ']' :: rest) := by simp
      rw [hbracket, hostLength, if_neg (by decide), if_pos rfl, hostLength_true_append colons hrest]
      simp
      omega

theorem HostText.delimiters {host : List Char} (h : HostText host) {c : Char} (hc : c ∈ host) :
    c ∈ delimiters → c ∈ [':', '[', ']'] := by
  intro hdelimiter
  cases h with
  | name free => exact absurd hdelimiter (free c hc)
  | @address cs colons =>
      rcases List.mem_append.mp hc with hc | hc
      · rcases List.mem_cons.mp hc with rfl | hc
        · decide
        · rw [colons c hc hdelimiter]
          decide
      · rw [List.mem_singleton.mp hc]
        decide

namespace Authority

def credentials (authority : Authority) : List Char :=
  authority.user.toList ++ authority.password.elim [] (':' :: ·.toList)

/-- What is written behind the host. -/
def portText (authority : Authority) : List Char :=
  authority.port.elim [] (':' :: Nat.toDigits 10 ·)

variable {authority : Authority}

theorem toList_text :
    authority.text.toList
      = (if authority.credentials = [] then [] else authority.credentials ++ ['@'])
        ++ (authority.host.toList ++ authority.portText) := by
  have hcredentials : (authority.user ++ (authority.password.map (":" ++ ·)).getD "").toList
      = authority.credentials := by
    rcases authority with ⟨user, _ | password, host, port⟩ <;> simp [credentials]
  have hport : ((authority.port.map fun port => ":" ++ toString port).getD "").toList
      = authority.portText := by
    rcases authority with ⟨user, password, host, _ | port⟩ <;> simp [portText]
  have hempty : authority.user ++ (authority.password.map (":" ++ ·)).getD "" = ""
      ↔ authority.credentials = [] := by
    rw [← hcredentials, String.toList_eq_nil_iff]
  unfold text
  dsimp only
  rw [String.toList_append, String.toList_append, hport, List.append_assoc]
  by_cases hnone : authority.credentials = []
  · rw [if_pos hnone, if_pos (hempty.mpr hnone)]
    rfl
  · rw [if_neg hnone, if_neg fun h => hnone (hempty.mp h), String.toList_append, hcredentials]
    rfl

theorem portText_head : ∀ c ∈ authority.portText.head?, c = ':' := by
  intro c hc
  unfold portText at hc
  cases hport : authority.port with
  | none =>
      rw [hport] at hc
      cases hc
  | some port =>
      rw [hport] at hc
      exact (Option.some.inj hc).symm

theorem portText_delimiters {c : Char} (hc : c ∈ authority.portText) : c ∈ delimiters → c = ':' := by
  intro hdelimiter
  unfold portText at hc
  cases hport : authority.port with
  | none =>
      rw [hport] at hc
      cases hc
  | some port =>
      rw [hport] at hc
      rcases List.mem_cons.mp hc with rfl | hc
      · rfl
      · exact absurd hdelimiter (Address.undelimited_toDigits port c hc)

theorem Legible.credentials_delimiters (h : authority.Legible) {c : Char} (hc : c ∈ authority.credentials) :
    c ∈ delimiters → c = ':' := by
  intro hdelimiter
  rcases List.mem_append.mp hc with hc | hc
  · exact absurd hdelimiter (h.user c hc)
  · cases hpassword : authority.password with
    | none =>
        rw [hpassword] at hc
        cases hc
    | some password =>
        rw [hpassword] at hc
        rcases List.mem_cons.mp hc with rfl | hc
        · rfl
        · exact absurd hdelimiter (h.password password hpassword c hc)

theorem Legible.server_delimiters (h : authority.Legible) {c : Char}
    (hc : c ∈ authority.host.toList ++ authority.portText) : c ∈ delimiters → c ∈ [':', '[', ']'] := by
  intro hdelimiter
  rcases List.mem_append.mp hc with hc | hc
  · exact h.host.delimiters hc hdelimiter
  · rw [portText_delimiters hc hdelimiter]
    decide

theorem Legible.inAuthority_of_mem_text (h : authority.Legible) {c : Char} (hc : c ∈ authority.text.toList) :
    inAuthority c = true := by
  -- The delimiters in the text are other ones than those that end an authority.
  have hdelimiter : c ∈ delimiters → c ∈ [':', '[', ']', '@'] := by
    intro hdelimiter
    rw [toList_text] at hc
    rcases List.mem_append.mp hc with hc | hc
    · split at hc
      · cases hc
      · rcases List.mem_append.mp hc with hc | hc
        · rw [h.credentials_delimiters hc hdelimiter]
          decide
        · rw [List.mem_singleton.mp hc]
          decide
    · exact List.mem_append_left ['@'] (h.server_delimiters hc hdelimiter)
  have hother : c ≠ '/' ∧ c ≠ '?' ∧ c ≠ '#' := by
    refine ⟨?_, ?_, ?_⟩ <;> rintro rfl <;> exact absurd (hdelimiter (by decide)) (by decide)
  simp [inAuthority, endsPath, hother]

theorem Legible.splitFirst_text (h : authority.Legible) :
    (Text.splitFirst '@' authority.text.toList).getD ([], authority.text.toList)
      = (authority.credentials, authority.host.toList ++ authority.portText) := by
  rw [toList_text]
  by_cases hnone : authority.credentials = []
  · have hserver : '@' ∉ authority.host.toList ++ authority.portText := fun hc =>
      absurd (h.server_delimiters hc (by decide)) (by decide)
    rw [if_pos hnone, List.nil_append, Text.splitFirst_of_not_mem hserver, hnone]
    rfl
  · have hcredentials : '@' ∉ authority.credentials := fun hc =>
      absurd (h.credentials_delimiters hc (by decide)) (by decide)
    rw [if_neg hnone, List.append_assoc, List.singleton_append, Text.splitFirst_append hcredentials]
    rfl

theorem Legible.splitFirst_credentials (h : authority.Legible) :
    (Text.splitFirst ':' authority.credentials).elim (authority.credentials, none)
        (fun (user, password) => (user, some (String.ofList password)))
      = (authority.user.toList, authority.password) := by
  have huser : ':' ∉ authority.user.toList := h.user.not_mem (by decide)
  unfold credentials
  cases authority.password with
  | none =>
      have hall : authority.user.toList ++ none.elim [] (':' :: String.toList ·) = authority.user.toList :=
        List.append_nil _
      rw [hall, Text.splitFirst_of_not_mem huser]
      rfl
  | some password =>
      have hsplit := Text.splitFirst_append huser password.toList
      rw [Option.elim_some, hsplit, Option.elim_some]
      dsimp only
      rw [String.ofList_toList]

theorem portIn?_portText : portIn? authority.portText = authority.port := by
  unfold portText
  cases authority.port with
  | none => rfl
  | some port => exact congrArg some Nat.ofDigitChars_ten_toDigits

theorem Legible.takenApart_text (h : authority.Legible) : takenApart authority.text.toList = authority := by
  have hsize := hostLength_append h.host authority.portText_head
  unfold takenApart
  rw [h.splitFirst_text]
  dsimp only
  rw [h.splitFirst_credentials]
  dsimp only
  rw [hsize, List.take_left, List.drop_left, portIn?_portText, String.ofList_toList, String.ofList_toList]

end Authority

/-! ### URLs -/

/-- What is written behind the path. -/
def suffixText (url : Url) : List Char :=
  url.query.elim [] ('?' :: ·.toList) ++ url.fragment.elim [] ('#' :: ·.toList)

variable {url : Url} {parts : Authority}

theorem endsPath_head_suffixText : ∀ c ∈ url.suffixText.head?, endsPath c = true := by
  intro c hc
  unfold suffixText at hc
  rcases url with ⟨scheme, authority, guarded, path, _ | query, _ | fragment⟩
  · cases hc
  · cases hc
    rfl
  · cases hc
    rfl
  · cases hc
    rfl

theorem toList_text (hauthority : url.authority = some parts) (hguarded : url.guarded = false) :
    url.text.toList = url.scheme.toList ++ ':' :: '/' :: '/' ::
      (parts.text.toList ++ (url.path.toList ++ url.suffixText)) := by
  rcases url with ⟨scheme, authority, guarded, path, query, fragment⟩
  dsimp only at hauthority hguarded
  subst hauthority hguarded
  cases query <;> cases fragment <;> simp [text, suffixText]

theorem suffixIn_suffixText (hquery : ∀ query ∈ url.query, '#' ∉ query.toList) :
    suffixIn url.suffixText = (url.query, url.fragment) := by
  have hfragment : fragmentIn? (url.fragment.elim [] ('#' :: ·.toList)) = url.fragment := by
    cases url.fragment with
    | none => rfl
    | some fragment => exact congrArg some String.ofList_toList
  unfold suffixText
  cases hsome : url.query with
  | none =>
      rw [Option.elim_none, List.nil_append]
      cases url.fragment with
      | none => rfl
      | some fragment => exact congrArg (none, some ·) String.ofList_toList
  | some query =>
      have hinner : ∀ c ∈ query.toList, decide (c ≠ '#') = true := by
        intro c hc
        refine decide_eq_true ?_
        rintro rfl
        exact hquery query hsome hc
      have hend : ∀ c ∈ (url.fragment.elim [] ('#' :: ·.toList)).head?, decide (c ≠ '#') = false := by
        intro c hc
        cases hfragment : url.fragment with
        | none =>
            rw [hfragment] at hc
            cases hc
        | some fragment =>
            rw [hfragment] at hc
            cases hc
            rfl
      rw [Option.elim_some, List.cons_append, suffixIn, takeWhile_append_of_ends hinner hend,
        dropWhile_append_of_ends hinner hend, hfragment, String.ofList_toList]

theorem Legible.takenApart?_text (h : url.Legible parts) : takenApart? url.text = some url := by
  have hpath : ∀ c ∈ url.path.toList, (!endsPath c) = true := by
    intro c hc
    rw [h.path.inner c hc]
    rfl
  have hsuffix : ∀ c ∈ url.suffixText.head?, (!endsPath c) = false := by
    intro c hc
    rw [endsPath_head_suffixText c hc]
    rfl
  have hauthority : ∀ c ∈ parts.text.toList, inAuthority c = true := fun c hc =>
    h.legible.inAuthority_of_mem_text hc
  have hbehind : ∀ c ∈ (url.path.toList ++ url.suffixText).head?, inAuthority c = false := by
    intro c hc
    cases hempty : url.path.toList with
    | nil =>
        rw [hempty, List.nil_append] at hc
        simp [inAuthority, endsPath_head_suffixText c hc]
    | cons first rest =>
        have hfirst : first = '/' := h.path.first first (by rw [hempty]; rfl)
        rw [hempty, hfirst] at hc
        cases hc
        rfl
  rw [takenApart?, toList_text h.authority h.guarded, Text.splitFirst_append h.scheme]
  simp only [Option.bind_eq_bind, Option.bind_some, takeWhile_append_of_ends hauthority hbehind,
    dropWhile_append_of_ends hauthority hbehind, takeWhile_append_of_ends hpath hsuffix,
    dropWhile_append_of_ends hpath hsuffix, suffixIn_suffixText h.query, h.legible.takenApart_text,
    String.ofList_toList]
  obtain ⟨scheme, authority, guarded, path, query, fragment⟩ := url
  have hsame : authority = some parts ∧ guarded = false := ⟨h.authority, h.guarded⟩
  rw [hsame.1, hsame.2]
  rfl

example : takenApart? "postgresql://app:s3@[fe80::1]:5432/fuse?options=a/b#c?d"
    = some {
        scheme := "postgresql"
        authority := some { user := "app", password := some "s3", host := "[fe80::1]", port := some 5432 }
        path := "/fuse"
        query := some "options=a/b"
        fragment := some "c?d" } := by
  decide

end OperatorConfig.Url
