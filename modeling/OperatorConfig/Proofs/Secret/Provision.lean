import OperatorConfig.Proofs.Secret.Slots
import OperatorConfig.Secret.Generation

/-!
# What provisioning does to each secret

A secret that is stored with a value gets that value, one that is not keeps what it holds, and one that is
then still empty is generated from the words that the missing secrets before it have left. Nothing but
secrets is touched, and no secret is empty afterwards.
-/

namespace OperatorConfig

/-! ### Generated texts -/

/-- The source that gives one accepted word again and again. -/
def WordSource.constantly (word : UInt32) (h : Accepted word) : WordSource where
  word _ := word
  recurs n := ⟨n, Nat.le_refl n, h⟩

namespace Words

theorem length_drawMany (words : Words) (count : Nat) :
    (words.drawMany count).1.length = count := by
  induction count generalizing words with
  | zero => rfl
  | succ count ih => exact congrArg (· + 1) (ih words.draw.2)

theorem length_password (words : Words) (length : Nat) :
    (words.password length).1.length = length := by
  rw [password, String.length_ofList, length_drawMany]

end Words

/-! ### Stored secrets -/

/-- The value that stored data have for a secret: if they have an entry under the name of any secret, the
one under its own name, and if not, the one in the text `params`. -/
def persisted? (stored : Option Table) (field : SecretField) : Option String :=
  stored.bind fun data =>
    if SecretField.all.any fun known => (data.get? known.name).isSome then data.get? field.name
    else (data.get? "params").bind fun blob => (Params.parse blob).get? field.name

namespace Bundle

theorem hasSecret_eq_true_iff (data : Table) :
    hasSecret data = true ↔ ∃ known : SecretField, data.get? known.name ≠ none := by
  simp [hasSecret, Table.contains, SecretField.mem_all, Option.isSome_iff_ne_none]

theorem hasSecret_eq_false {data : Table} (h : ∀ known : SecretField, data.get? known.name = none) :
    hasSecret data = false := by
  rw [← Bool.not_eq_true, hasSecret_eq_true_iff]
  exact fun ⟨known, hknown⟩ => hknown (h known)

/-- Data with an entry of any secret, be it an empty one, are read by their entries. -/
theorem get?_ofData_of_known {data : Table} (h : ∃ known : SecretField, data.get? known.name ≠ none)
    (name : String) : (ofData (some data)).get? name = data.get? name := by
  rw [ofData, (hasSecret_eq_true_iff data).mpr h]
  rfl

theorem get?_ofData_of_params {data : Table} (h : ∀ known : SecretField, data.get? known.name = none)
    {blob : String} (hblob : data.get? legacyName = some blob) (name : String) :
    (ofData (some data)).get? name = (Params.parse blob).get? name := by
  rw [ofData, hasSecret_eq_false h, hblob]
  rfl

theorem get?_ofData_of_nothing {data : Table} (h : ∀ known : SecretField, data.get? known.name = none)
    (hblob : data.get? legacyName = none) (name : String) : (ofData (some data)).get? name = none := by
  rw [ofData, hasSecret_eq_false h, hblob]
  rfl

theorem get?_ofData (stored : Option Table) (field : SecretField) :
    (ofData stored).get? field.name = persisted? stored field := by
  cases stored with
  | none => rfl
  | some data =>
      by_cases hknown : ∃ known : SecretField, data.get? known.name ≠ none
      · have hentry := (hasSecret_eq_true_iff data).mpr hknown
        rw [get?_ofData_of_known hknown]
        exact (if_pos hentry).symm
      · have hnone : ∀ known : SecretField, data.get? known.name = none := by simpa using hknown
        have hentry : ¬ hasSecret data = true := mt (hasSecret_eq_true_iff data).mp hknown
        let entryIn (blob : String) : Option String := (Params.parse blob).get? field.name
        refine Eq.trans ?_ (if_neg hentry).symm
        cases hblob : data.get? legacyName with
        | none =>
            rw [get?_ofData_of_nothing hnone hblob]
            exact (congrArg (Option.bind · entryIn) hblob).symm
        | some blob =>
            rw [get?_ofData_of_params hnone hblob]
            exact (congrArg (Option.bind · entryIn) hblob).symm

/-- The value of a secret that holds `held` once the stored ones are taken over: the stored one, unless it
is empty. -/
def kept (bundle : Bundle) (field : SecretField) (held : String) : String :=
  ((bundle.get? field.name).filter (· ≠ "")).getD held

theorem kept_kept (bundle : Bundle) (field : SecretField) (held : String) :
    bundle.kept field (bundle.kept field held) = bundle.kept field held := by
  unfold kept
  cases (bundle.get? field.name).filter (· ≠ "") <;> rfl

theorem applyField_eq_set (bundle : Bundle) (s : Settings) (field : SecretField) :
    bundle.applyField s field = field.set (bundle.kept field (field.get s)) s := by
  unfold applyField kept
  cases bundle.get? field.name with
  | none => exact (field.set_get s).symm
  | some value => by_cases hempty : value = "" <;> simp [Option.filter_some, hempty]

theorem apply_eq_fill (bundle : Bundle) (s : Settings) :
    bundle.apply s = SecretField.fill (fun field => bundle.kept field (field.get s)) s :=
  SecretField.foldl_all_eq_fill bundle.kept bundle.applyField_eq_set bundle.kept_kept s

theorem get_apply (bundle : Bundle) (s : Settings) (field : SecretField) :
    field.get (bundle.apply s) = ((bundle.get? field.name).filter (· ≠ "")).getD (field.get s) := by
  rw [apply_eq_fill, SecretField.get_fill, kept]

end Bundle

/-! ### Missing secrets -/

namespace Settings

/-- The words that are left once the missing ones among some secrets have been generated. -/
def wordsAfter (s : Settings) (words : Words) (fields : List SecretField) : Words :=
  (fields.filter fun field => field.get s = "").foldl
    (fun words field => (words.password field.length).2) words

/-- The value that is generated for a secret: its text comes from the words that are left once the
missing secrets before it have been generated. -/
def generated (s : Settings) (words : Words) (field : SecretField) : String :=
  ((s.wordsAfter words (SecretField.all.takeWhile (· ≠ field))).password field.length).1

theorem generated_ne_empty (s : Settings) (words : Words) (field : SecretField) :
    s.generated words field ≠ "" := by
  intro hempty
  have hlength := (s.wordsAfter words (SecretField.all.takeWhile (· ≠ field))).length_password
    field.length
  rw [show ((s.wordsAfter words (SecretField.all.takeWhile (· ≠ field))).password field.length).1
    = "" from hempty] at hlength
  cases field <;> simp [SecretField.length] at hlength

theorem wordsAfter_set {field : SecretField} {fields : List SecretField} (hnot : field ∉ fields)
    (value : String) (s : Settings) (words : Words) :
    (field.set value s).wordsAfter words fields = s.wordsAfter words fields := by
  unfold wordsAfter
  congr 1
  refine List.filter_congr fun other hmem => ?_
  have hne : other ≠ field := fun heq => hnot (heq ▸ hmem)
  rw [SecretField.get_set_ne hne]

theorem get_foldl_generate {fields : List SecretField} (hnodup : fields.Nodup) (s : Settings)
    (words : Words) (field : SecretField) :
    field.get (fields.foldl generate (s, words)).1
      = if field ∈ fields ∧ field.get s = "" then
          ((s.wordsAfter words (fields.takeWhile (· ≠ field))).password field.length).1
        else field.get s := by
  induction fields generalizing s words with
  | nil => simp
  | cons head rest ih =>
      obtain ⟨hhead, hrest⟩ := List.nodup_cons.mp hnodup
      rw [List.foldl_cons]
      by_cases hempty : head.get s = ""
      · have hstep : generate (s, words) head
            = (head.set (words.password head.length).1 s, (words.password head.length).2) := by
          simp [generate, hempty]
        rw [hstep, ih hrest]
        by_cases heq : field = head
        · subst heq
          simp [hhead, hempty, wordsAfter]
        · have hnot : head ∉ rest.takeWhile (· ≠ field) := fun hmem =>
            hhead ((List.takeWhile_prefix _).subset hmem)
          have hwords : s.wordsAfter words ((head :: rest).takeWhile (· ≠ field))
              = s.wordsAfter (words.password head.length).2 (rest.takeWhile (· ≠ field)) := by
            simp [wordsAfter, Ne.symm heq, hempty]
          rw [hwords, wordsAfter_set hnot, SecretField.get_set_ne heq]
          simp [heq]
      · have hstep : generate (s, words) head = (s, words) := by simp [generate, hempty]
        rw [hstep, ih hrest]
        by_cases heq : field = head
        · subst heq
          simp [hempty]
        · simp [heq, Ne.symm heq, wordsAfter, hempty]

theorem fill_foldl_generate (values : SecretField → String) (fields : List SecretField)
    (s : Settings) (words : Words) :
    SecretField.fill values (fields.foldl generate (s, words)).1 = SecretField.fill values s := by
  induction fields generalizing s words with
  | nil => rfl
  | cons head rest ih =>
      rw [List.foldl_cons]
      by_cases hempty : head.get s = "" <;> simp [generate, hempty, ih]

theorem get_generateMissing (s : Settings) (words : Words) (field : SecretField) :
    field.get (s.generateMissing words).1
      = if field.get s = "" then s.generated words field else field.get s := by
  rw [generateMissing, get_foldl_generate (by decide)]
  simp only [SecretField.mem_all, true_and]
  rfl

/-! ### Both together -/

/-- The value of a secret once the stored ones are taken over: the stored one, unless it is empty. -/
def keptSecret (stored : Option Table) (s : Settings) (field : SecretField) : String :=
  ((persisted? stored field).filter (· ≠ "")).getD (field.get s)

/-- The value of a secret after provisioning: the stored one, else the one held, else a generated one. -/
def provisionedSecret (stored : Option Table) (s : Settings) (words : Words)
    (field : SecretField) : String :=
  if s.keptSecret stored field = "" then
    (SecretField.fill (s.keptSecret stored) s).generated words field
  else s.keptSecret stored field

theorem apply_ofData (stored : Option Table) (s : Settings) :
    (Bundle.ofData stored).apply s = SecretField.fill (s.keptSecret stored) s := by
  rw [Bundle.apply_eq_fill]
  refine congrArg (SecretField.fill · s) (funext fun field => ?_)
  rw [Bundle.kept, Bundle.get?_ofData, keptSecret]

/-- Provisioning looks at nothing but the secrets. -/
theorem provisionedSecret_congr {a b : Settings} (h : ∀ field : SecretField, field.get a = field.get b)
    (stored : Option Table) (words : Words) :
    a.provisionedSecret stored words = b.provisionedSecret stored words := by
  funext field
  simp only [provisionedSecret, keptSecret, generated, wordsAfter, SecretField.get_fill, h]

theorem provisionedSecret_ne_empty (stored : Option Table) (s : Settings) (words : Words)
    (field : SecretField) : s.provisionedSecret stored words field ≠ "" := by
  unfold provisionedSecret
  split
  · exact generated_ne_empty _ words field
  next hkept => exact hkept

theorem keptSecret_cases (stored : Option Table) (s : Settings) (field : SecretField) :
    s.keptSecret stored field = field.get s ∨
      ∃ value, persisted? stored field = some value ∧ value ≠ "" ∧ s.keptSecret stored field = value := by
  unfold keptSecret
  cases hvalue : (persisted? stored field).filter (· ≠ "") with
  | none => exact .inl rfl
  | some value =>
      obtain ⟨hstored, hset⟩ := Option.filter_eq_some_iff.mp hvalue
      exact .inr ⟨value, hstored, by simpa using hset, rfl⟩

/-- For a secret that is there already none is generated. -/
theorem provisionedSecret_of_ne_empty {s : Settings} {field : SecretField} (hheld : field.get s ≠ "")
    (stored : Option Table) (words : Words) :
    s.provisionedSecret stored words field = s.keptSecret stored field := by
  refine if_neg fun hempty => ?_
  rcases s.keptSecret_cases stored field with hkept | ⟨value, -, hvalue, hkept⟩
  · exact hheld (hkept ▸ hempty)
  · exact hvalue (hkept ▸ hempty)

/-- Provisioning fills the secrets and touches nothing else. -/
theorem provision_eq_fill (stored : Option Table) (s : Settings) (words : Words) :
    (s.provision stored words).1
      = SecretField.fill (fun field => s.provisionedSecret stored words field) s := by
  refine SecretField.eq_of_fill (fun field => field.get s) ?_ fun field => ?_
  · rw [provision, generateMissing, fill_foldl_generate, apply_ofData]
    rfl
  · rw [provision, get_generateMissing, apply_ofData, SecretField.get_fill, SecretField.get_fill,
      provisionedSecret]

end Settings

end OperatorConfig
