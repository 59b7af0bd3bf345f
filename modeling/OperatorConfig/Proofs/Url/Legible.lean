import OperatorConfig.Proofs.Url.Apart

/-!
# URLs that have been read

A URL that comes from a text, if it has an authority, can be told apart again in its own text. A new path
leaves it so, and touches nothing but the path.
-/

namespace OperatorConfig.Url

variable {kind : Kind} {url : Url} {parts : Authority}

-- Only a colon becomes a colon in lower case.
theorem not_mem_map_toLower {cs : List Char} (hascii : ∀ c ∈ cs, c.toNat < 128) (h : ':' ∉ cs) :
    ':' ∉ cs.map Char.toLower := by
  intro hmem
  obtain ⟨c, hc, hcolon⟩ := List.mem_map.mp hmem
  have hself := of_ascii (p := fun c => c.toLower = ':' → c = ':') (by decide) (hascii c hc) hcolon
  rw [hself] at hc
  exact h hc

theorem not_mem_scheme {cs rest : List Char} {scheme : String} (h : readScheme cs = some (scheme, rest)) :
    ':' ∉ scheme.toList := by
  unfold readScheme at h
  split at h
  · split at h
    · cases h
    · split at h
      · rename_i before after hsplit
        split at h
        · rename_i hall
          cases h
          rw [String.toList_ofList]
          refine not_mem_map_toLower ?_ (Text.splitFirst_eq_some_iff.mp hsplit).1
          intro c hc
          have hallowed : ((c.isAlphanum = true ∨ c = '+') ∨ c = '-') ∨ c = '.' := by
            simpa using List.all_eq_true.mp hall c hc
          rcases hallowed with ((h | rfl) | rfl) | rfl
          · exact toNat_lt_of_isAlphanum h
          all_goals decide
        · cases h
      · cases h
  · cases h

theorem not_mem_encode {set : Char → Bool} (hset : set '#' = true) (cs : List Char) :
    '#' ∉ (Text.Percent.encode set cs).toList := by
  rw [Text.Percent.toList_encode]
  intro hmem
  rcases Text.Percent.mem_encodeChars hmem with ⟨-, hnot⟩ | hbyte
  · rw [hset] at hnot
    cases hnot
  · exact absurd hbyte (by decide)

theorem not_mem_query (kind : Kind) (cs : List Char) : ∀ query ∈ (readSuffix kind cs).1, '#' ∉ query.toList := by
  have hset : (if kind.isSpecial then Text.Percent.webQuery else Text.Percent.query) '#' = true := by
    cases kind.isSpecial <;> decide
  unfold readSuffix
  intro query hmem
  dsimp only at hmem
  split at hmem
  · cases hmem
  · split at hmem
    · cases hmem
      exact not_mem_encode hset _
    · cases hmem
      exact not_mem_encode hset _
  · cases hmem

theorem undelimited_readUser (credentials : Option (List Char)) :
    Undelimited ((credentials.map readUser).getD ("", none)).1.toList ∧
      ∀ password ∈ ((credentials.map readUser).getD ("", none)).2, Undelimited password.toList := by
  cases credentials with
  | none => exact ⟨by decide, by rintro _ ⟨⟩⟩
  | some cs =>
      rw [Option.map_some, Option.getD_some, readUser]
      split
      · refine ⟨undelimited_encode_user _, ?_⟩
        intro password hpassword
        split at hpassword
        · cases hpassword
        · cases hpassword
          exact undelimited_encode_user _
      · exact ⟨undelimited_encode_user cs, by rintro _ ⟨⟩⟩

theorem legible_readAuthority (kind : Kind) (cs : List Char) :
    Ensures (fun read => read.1.Legible) (readAuthority kind cs) := by
  unfold readAuthority
  extract_lets written behind
  split
  rename_i credentials written hwritten
  refine ensures_check ?_
  have huser := undelimited_readUser credentials
  split
  rename_i user password hread
  rw [hread] at huser
  refine ensures_check ?_
  refine ensures_bind (fun _ hhost => hostText_readHost hhost) ?_
  intro host hhost
  have hlegible (port : Option Nat) : ({ user, password, host, port } : Authority).Legible :=
    ⟨huser.1, huser.2, hhost⟩
  dsimp only
  split
  · refine ensures_check ?_
    refine ensures_bind (ensures_trivial _) ?_
    intro behind _
    exact ensures_pure (hlegible _)
  · refine ensures_check ?_
    exact ensures_pure (hlegible none)

/-- A URL behind an authority, put together. -/
theorem legible_assemble {scheme : String} (hscheme : ':' ∉ scheme.toList) (hparts : parts.Legible)
    {path : List Char} (hpath : Path.Trailing path) (suffix : List Char) :
    (assemble kind scheme (some parts) path suffix).Legible parts where
  scheme := hscheme
  authority := rfl
  legible := hparts
  guarded := rfl
  path := by
    have hlist : (assemble kind scheme (some parts) path suffix).path.toList = path := String.toList_ofList
    rwa [hlist]
  query := not_mem_query kind suffix

theorem legible_readFile (cs : List Char) :
    Ensures (fun url => ∀ parts ∈ url.authority, url.Legible parts) (readFile cs) := by
  unfold readFile
  extract_lets before suffix file
  have hfile {host : String} (hhost : HostText host.toList) {path : List Char} (hpath : Path.Trailing path) :
      ∀ parts ∈ (file host path).authority, (file host path).Legible parts := by
    rintro parts ⟨⟩
    have huser : Undelimited "".toList := by decide
    have hparts : ({ host } : Authority).Legible := ⟨huser, (by rintro _ ⟨⟩), hhost⟩
    exact legible_assemble (by decide) hparts hpath suffix
  have hnone : HostText "".toList := .name (by decide)
  have hslash (cs : List Char) := Path.trailing_readBehind (Path.contained_slash (Kind.file ≠ .file)) cs
  have hnil (cs : List Char) : Path.Trailing (Path.readBehind .file [] cs).path :=
    Path.trailing_readBehind ⟨List.forall_mem_nil _, fun h => absurd rfl h⟩ cs
  have hread (afterSlash : Bool) (cs : List Char) : Path.Trailing (Path.read .file afterSlash cs).path :=
    Path.trailing_read (fun _ => rfl) cs
  clear_value before
  split
  · split
    · extract_lets written behind
      split
      · exact ensures_pure (hfile hnone (hread true _))
      · split
        · exact ensures_pure (hfile hnone (hslash _))
        · refine ensures_bind (fun _ hhost => hostText_readHost hhost) ?_
          intro host hhost
          split
          · exact ensures_pure (hfile hnone (hread true _))
          · refine ensures_pure (hfile ?_ (hread false _))
            split
            · exact hnone
            · exact hhost
    · split
      · exact ensures_pure (hfile hnone (hnil _))
      · exact ensures_pure (hfile hnone (hslash _))
  · split
    · exact ensures_pure (hfile hnone (hnil _))
    · exact ensures_pure (hfile hnone (hslash _))
  · exact ensures_pure (hfile hnone (hslash _))

theorem legible_readAfterScheme {scheme : String} (hscheme : ':' ∉ scheme.toList) (cs : List Char) :
    Ensures (fun url => ∀ parts ∈ url.authority, url.Legible parts) (readAfterScheme scheme cs) := by
  unfold readAfterScheme
  extract_lets kind withAuthority path suffix
  have hwith (cs : List Char) :
      Ensures (fun url => ∀ parts ∈ url.authority, url.Legible parts) (withAuthority cs) := by
    refine ensures_bind (legible_readAuthority kind cs) ?_
    intro read hread
    refine ensures_pure ?_
    rintro parts ⟨⟩
    have hpath := @Path.trailing_read kind false (by rintro ⟨⟩) (read.2.takeWhile (!endsPath ·))
    exact legible_assemble hscheme hread hpath _
  clear_value withAuthority path kind
  split
  · exact legible_readFile cs
  · exact hwith _
  · split
    · exact hwith _
    · split
      · exact ensures_pure (by rintro _ ⟨⟩)
      · exact ensures_pure (by rintro _ ⟨⟩)

theorem legible_ofText {s : String} (h : ofText s = .ok url) (hparts : url.authority = some parts) :
    url.Legible parts := by
  unfold ofText at h
  dsimp only at h
  split at h
  · rename_i hscheme
    exact legible_readAfterScheme (not_mem_scheme hscheme) _ url h parts hparts
  · cases h

theorem Legible.withPath (h : url.Legible parts) (path : String) : (url.withPath path).Legible parts := by
  have hsegmented := isOpaque_of_authority h.authority
  have hpath := trailing_withPath hsegmented path
  unfold Url.withPath at hpath ⊢
  simp only [hsegmented, Bool.false_eq_true, if_false] at hpath ⊢
  exact ⟨h.scheme, h.authority, h.legible, h.guarded, hpath, h.query⟩

end OperatorConfig.Url
