import OperatorConfig.Proofs.Text.Parts
import OperatorConfig.Proofs.Url.Characters

/-!
# Paths behind an authority

Whatever a path is made of, it begins with a slash, if it is not empty, and no character stands in it that
would end it. A name of letters and digits makes up a path of one segment just as it stands.
-/

namespace OperatorConfig.Url

namespace Path

/-! ### The beginning and the end -/

/-- A path as far as it has been read: nothing in it ends it, and if it is rooted, it begins with a slash. -/
structure Contained (rooted : Prop) (path : List Char) : Prop where
  inner : ∀ c ∈ path, endsPath c = false
  first : rooted → path.head? = some '/'

variable {rooted : Prop} {path : List Char}

theorem Contained.append (h : Contained rooted path) {more : List Char}
    (hmore : ∀ c ∈ more, endsPath c = false) : Contained rooted (path ++ more) where
  inner c hc := (List.mem_append.mp hc).elim (h.inner c) (hmore c)
  first hrooted := by rw [List.head?_append, h.first hrooted]; rfl

theorem Contained.of_isPrefix (h : Contained rooted path) {start : List Char} (hstart : start <+: path)
    (hne : rooted → start ≠ []) : Contained rooted start where
  inner c hc := h.inner c (hstart.subset hc)
  first hrooted := by
    have hfirst := h.first hrooted
    obtain ⟨c, rest, rfl⟩ := List.exists_cons_of_ne_nil (hne hrooted)
    obtain ⟨more, rfl⟩ := hstart
    exact hfirst

theorem contained_upToSlash (h : Contained rooted path) : Contained rooted (upToSlash path) := by
  obtain ⟨⟨ending, hending, hnone⟩, -⟩ := Text.endTrimmed_dropEndWhile (· ≠ '/') path
  refine h.of_isPrefix ⟨ending, hending.symm⟩ fun hrooted hnil => ?_
  have hslash : '/' ∈ path := List.mem_of_head? (h.first hrooted)
  have hcut : path = ending := by
    have hempty : Text.dropEndWhile (· ≠ '/') path = [] := hnil
    rwa [hempty, List.nil_append] at hending
  rw [hcut] at hslash
  simpa using hnone '/' hslash

theorem contained_parent (h : Contained rooted path) : Contained rooted (parent path) := by
  unfold parent
  split
  · rename_i segment hlast
    split
    · exact contained_upToSlash h
    · refine contained_upToSlash (h.of_isPrefix (List.dropLast_prefix path) fun _ hnil => ?_)
      unfold lastSegment at hlast
      rw [hnil] at hlast
      cases hlast
  · exact contained_upToSlash h

theorem contained_add (kind : Kind) {progress : Progress} (h : Contained rooted progress.path)
    {segment : List Char} (hsegment : ∀ c ∈ segment, endsPath c = false) (slash : Bool) :
    Contained rooted (progress.add kind segment slash).path := by
  have hending : ∀ c ∈ if slash then ['/'] else [], endsPath c = false := by
    cases slash with
    | false => exact List.forall_mem_nil _
    | true => exact List.forall_mem_singleton.mpr rfl
  unfold Progress.add
  dsimp only
  split
  · exact contained_parent h
  · split
    · exact h
    · split
      · refine ((h.append fun c hc => ?_).append (List.forall_mem_singleton.mpr rfl)).append hending
        exact hsegment c (List.mem_of_mem_take hc)
      · exact (h.append hsegment).append hending

theorem endsPath_eq_false_iff {c : Char} : endsPath c = false ↔ c ≠ '?' ∧ c ≠ '#' := by
  simp [endsPath]

theorem endsPath_of_mem_encodeChars {cs : List Char} {c : Char}
    (h : c ∈ Text.Percent.encodeChars Text.Percent.path cs) : endsPath c = false := by
  rcases Text.Percent.mem_encodeChars h with ⟨-, hset⟩ | hbyte
  · refine endsPath_eq_false_iff.mpr ⟨?_, ?_⟩ <;> rintro rfl
    · exact absurd hset (by decide)
    · exact absurd hset (by decide)
  · have hbytes : Undelimited "%0123456789ABCDEF".toList := by decide
    refine endsPath_eq_false_iff.mpr ⟨?_, ?_⟩ <;> rintro rfl
    · exact hbytes '?' hbyte (by decide)
    · exact hbytes '#' hbyte (by decide)

theorem endsPath_of_isDrive {letter mark : Char} (h : isDrive [letter, mark] = true) : endsPath letter = false := by
  refine endsPath_eq_false_iff.mpr ⟨?_, ?_⟩ <;> rintro rfl
  · simp [isDrive] at h
  · simp [isDrive] at h

theorem contained_segments (kind : Kind) {progress : Progress} (h : Contained rooted progress.path)
    (segment cs : List Char) : Contained rooted (segments kind progress segment cs).path := by
  have hsegment (segment : List Char) (slash : Bool) {progress : Progress} (h : Contained rooted progress.path) :
      Contained rooted
        (progress.add kind (Text.Percent.encodeChars Text.Percent.path segment.reverse) slash).path :=
    contained_add kind h (fun c hc => endsPath_of_mem_encodeChars hc) slash
  fun_induction segments kind progress segment cs with
  | case1 progress segment => exact hsegment segment false h
  | case2 progress segment c rest hc ih => exact ih (hsegment segment true h)
  | case3 progress c rest hc mark letter hdrive ih =>
      refine ih (h.append fun c hc => ?_)
      rw [List.mem_singleton.mp hc]
      exact endsPath_of_isDrive hdrive.2.2
  | case4 progress c rest hc mark letter hdrive ih => exact ih h
  | case5 progress segment c rest hc hother ih => exact ih h

structure Trailing (path : List Char) : Prop where
  inner : ∀ c ∈ path, endsPath c = false
  first : ∀ c ∈ path.head?, c = '/'

theorem Contained.trailing (h : Contained True path) : Trailing path where
  inner := h.inner
  first c hc := by
    rw [h.first trivial] at hc
    exact (Option.some.inj hc).symm

-- A file path gets its first slash in the end, whatever has been read of it.
theorem trailing_readBehind {kind : Kind} {start : List Char} (hstart : Contained (kind ≠ .file) start)
    (cs : List Char) : Trailing (readBehind kind start cs).path := by
  have hprogress : Contained (kind ≠ .file) ({ path := start } : Progress).path := hstart
  have hread := contained_segments kind hprogress [] cs
  unfold readBehind
  by_cases hfile : kind = .file
  · rw [if_pos hfile]
    refine Contained.trailing ⟨fun c hc => ?_, fun _ => rfl⟩
    rcases List.mem_cons.mp hc with rfl | hc
    · decide
    · exact hread.inner c ((List.dropWhile_sublist _).subset hc)
  · rw [if_neg hfile]
    exact Contained.trailing ⟨hread.inner, fun _ => hread.first hfile⟩

theorem contained_slash (rooted : Prop) : Contained rooted ['/'] :=
  ⟨List.forall_mem_singleton.mpr rfl, fun _ => rfl⟩

theorem readBehind_nil_slash (kind : Kind) (rest : List Char) :
    readBehind kind [] ('/' :: rest) = readBehind kind ['/'] rest := by
  cases kind <;> rfl

theorem trailing_read {kind : Kind} {afterSlash : Bool} (hkind : afterSlash = true → kind = .file)
    (cs : List Char) : Trailing (read kind afterSlash cs).path := by
  have hslash (cs : List Char) : Trailing (readBehind kind ['/'] cs).path :=
    trailing_readBehind (contained_slash _) cs
  unfold read
  split
  · split
    · rename_i hafter
      exact trailing_readBehind ⟨List.forall_mem_nil _, fun hnot => absurd (hkind hafter) hnot⟩ cs
    · split
      · exact hslash _
      · exact hslash []
  · split
    · cases kind with
      | other => exact ⟨List.forall_mem_nil _, by rintro c ⟨⟩⟩
      | web port => exact absurd rfl ‹_›
      | file => exact absurd rfl ‹_›
    · rw [readBehind_nil_slash]
      exact hslash _
    · exact hslash cs

/-! ### Names -/

def isNameChar (c : Char) : Bool := c.isAlphanum || c = '_' || c = '-'

theorem of_isNameChar {c : Char} (h : isNameChar c = true) :
    Text.Percent.path c = false ∧ isIgnored c = false ∧ isSeparator .file c = false ∧
      c ≠ '.' ∧ c ≠ '%' ∧ c ≠ ':' ∧ c ≠ '|' := by
  have hlt : c.toNat < 128 := by
    have hcases : (c.isAlphanum = true ∨ c = '_') ∨ c = '-' := by simpa [isNameChar] using h
    rcases hcases with (h | rfl) | rfl
    · exact toNat_lt_of_isAlphanum h
    · decide
    · decide
  exact of_ascii
    (p := fun c => isNameChar c = true →
      Text.Percent.path c = false ∧ isIgnored c = false ∧ isSeparator .file c = false ∧
        c ≠ '.' ∧ c ≠ '%' ∧ c ≠ ':' ∧ c ≠ '|')
    (by decide) hlt h

theorem isSeparator_of_isNameChar {c : Char} (h : isNameChar c = true) (kind : Kind) :
    isSeparator kind c = false := by
  obtain ⟨-, -, hfile, -⟩ := of_isNameChar h
  obtain ⟨hslash, hback⟩ := Bool.or_eq_false_iff.mp hfile
  unfold isSeparator
  rw [hslash]
  cases kind <;> first | rfl | exact hback

theorem not_isDrive_of_isNameChar {letter mark : Char} (h : isNameChar mark = true) :
    isDrive [letter, mark] = false := by
  obtain ⟨-, -, -, -, -, hcolon, hbar⟩ := of_isNameChar h
  simp [isDrive, hcolon, hbar]

-- What has been read of the segment under way stands before the rest of the name.
theorem segments_of_isNameChar (kind : Kind) (progress : Progress) {segment cs : List Char}
    (h : ∀ c ∈ segment.reverse ++ cs, isNameChar c = true) :
    segments kind progress segment cs
      = progress.add kind (Text.Percent.encodeChars Text.Percent.path (segment.reverse ++ cs)) false := by
  have hmore {c : Char} {segment rest : List Char}
      (h : ∀ d ∈ segment.reverse ++ c :: rest, isNameChar d = true) :
      isNameChar c = true ∧ (c :: segment).reverse ++ rest = segment.reverse ++ c :: rest :=
    ⟨h c (List.mem_append_right _ List.mem_cons_self), by simp⟩
  fun_induction segments kind progress segment cs with
  | case1 progress segment => rw [List.append_nil]
  | case2 progress segment c rest hc =>
      rw [isSeparator_of_isNameChar (hmore h).1] at hc
      cases hc
  | case3 progress c rest hc mark letter hdrive =>
      have hmark : isNameChar mark = true := h mark (by simp)
      rw [not_isDrive_of_isNameChar hmark] at hdrive
      cases hdrive.2.2
  | case4 progress c rest hc mark letter hdrive ih =>
      have hsame := (hmore h).2
      rw [← hsame] at h ⊢
      exact ih h
  | case5 progress segment c rest hc hother ih =>
      have hsame := (hmore h).2
      rw [← hsame] at h ⊢
      exact ih h

section Name

variable {name : List Char} (hname : ∀ c ∈ name, isNameChar c = true) (hne : name ≠ [])

include hname hne

theorem add_of_isNameChar (kind : Kind) (progress : Progress) :
    progress.add kind name false = { progress with path := progress.path ++ name } := by
  have hdots : isTwoDots name = false ∧ isOneDot name = false := by
    obtain ⟨c, rest, rfl⟩ := List.exists_cons_of_ne_nil hne
    obtain ⟨-, -, -, hpoint, hpercent, -⟩ := of_isNameChar (hname c List.mem_cons_self)
    simp [isTwoDots, isOneDot, dots, hpoint, hpercent]
  have hdrive : isDrive name = false := by
    rcases name with _ | ⟨letter, _ | ⟨mark, _ | ⟨next, rest⟩⟩⟩
    · rfl
    · rfl
    · exact not_isDrive_of_isNameChar (hname mark (by simp))
    · rfl
  simp [Progress.add, hdots, hdrive]

theorem readBehind_slash_of_isNameChar (kind : Kind) : (readBehind kind ['/'] name).path = '/' :: name := by
  have hplain : Text.Percent.encodeChars Text.Percent.path name = name :=
    Text.Percent.encodeChars_of_forall fun c hc => (of_isNameChar (hname c hc)).1
  have hsegments : segments kind { path := ['/'] } [] name = { path := '/' :: name } := by
    have hsegment : ∀ c ∈ [].reverse ++ name, isNameChar c = true := hname
    rw [segments_of_isNameChar kind _ hsegment, List.reverse_nil, List.nil_append, hplain,
      add_of_isNameChar hname hne]
    rfl
  have hhead : name.dropWhile (· = '/') = name := by
    refine Text.dropWhile_eq_self fun c hc => ?_
    have hc := isSeparator_of_isNameChar (hname c (List.mem_of_head? hc)) .other
    simpa [isSeparator, Kind.isSpecial] using hc
  rw [readBehind, hsegments]
  split
  · exact congrArg ('/' :: ·) hhead
  · rfl

/-- A name stands in a path as it is. -/
theorem read_slash_of_isNameChar (kind : Kind) (afterSlash : Bool) :
    (read kind afterSlash ('/' :: name)).path = '/' :: name := by
  have hread := readBehind_slash_of_isNameChar hname hne kind
  unfold read
  split
  · split
    · rw [readBehind_nil_slash, hread]
    · exact hread
  · exact (congrArg Progress.path (readBehind_nil_slash kind name)).trans hread

end Name

end Path

/-! ### Another path -/

theorem isOpaque_of_authority {url : Url} {authority : Authority} (h : url.authority = some authority) :
    url.isOpaque = false := by
  rw [isOpaque, h]
  rfl

theorem trailing_withPath {url : Url} (h : url.isOpaque = false) (path : String) :
    Path.Trailing (url.withPath path).path.toList := by
  simp only [withPath, h, Bool.false_eq_true, if_false, String.toList_ofList]
  refine Path.trailing_read (fun hafter => ?_) _
  rw [Bool.and_eq_true, decide_eq_true_eq] at hafter
  exact hafter.1

/-- A name that is not empty makes up the path of a URL as it is. -/
theorem path_withPath_of_isNameChar {url : Url} (h : url.isOpaque = false) {name : String} (hne : name ≠ "")
    (hname : ∀ c ∈ name.toList, Path.isNameChar c = true) :
    (url.withPath ("/" ++ name)).path = "/" ++ name := by
  have hcs : ("/" ++ name).toList = '/' :: name.toList := by simp
  have hkept : ('/' :: name.toList).filter (!isIgnored ·) = '/' :: name.toList := by
    refine List.filter_eq_self.mpr fun c hc => ?_
    rcases List.mem_cons.mp hc with rfl | hc
    · rfl
    · rw [(Path.of_isNameChar (hname c hc)).2.1]
      rfl
  have hlist : name.toList ≠ [] := fun hnil => hne (String.toList_eq_nil_iff.mp hnil)
  simp only [withPath, h, Bool.false_eq_true, if_false, hcs, hkept,
    Path.read_slash_of_isNameChar hname hlist]
  rw [← hcs, String.ofList_toList]

end OperatorConfig.Url
