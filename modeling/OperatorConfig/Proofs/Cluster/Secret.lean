import Mathlib
import OperatorConfig.Cluster.Secret
import OperatorConfig.Proofs.Resolution.Layouts
import OperatorConfig.Proofs.Session.Stages

/-!
# Provisioning from a secret of the cluster

What a lookup finds is known by the value under each name, the text of a name before its bytes. As soon as
one of the seven names is there, be it without a value, these names alone decide what is taken over; the
one-text layout is read only where none of them is. A secret that does not exist is as good as no store,
and a lookup that fails in another way leaves everything as it was.
-/

namespace OperatorConfig

/-! ### What a secret of the cluster says -/

namespace StoredSecret

/-- The value under a name: the text of that name, or else its bytes read as text. -/
def value? (secret : StoredSecret) (name : String) : Option String :=
  (secret.stringData.get? name).or ((secret.data.reverse.lookup name).map Text.ofBytesLossy)

theorem get?_toTable (secret : StoredSecret) (name : String) :
    secret.toTable.get? name = secret.value? name := by
  rw [toTable, Table.get?_overlay, Table.get?_ofList, ← List.map_reverse, Table.lookup_map]
  rfl

/-- Secrets that say the same under the seven names, and something under one of them, are provisioned
alike. -/
theorem provision_congr {secret other : StoredSecret}
    (hsame : ∀ field : SecretField, secret.value? field.name = other.value? field.name)
    (hknown : ∃ known : SecretField, secret.value? known.name ≠ none) (s : Settings) (words : Words) :
    s.provision (some secret.toTable) words = s.provision (some other.toTable) words := by
  simp only [← get?_toTable] at hsame hknown
  have hknown' : ∃ known : SecretField, other.toTable.get? known.name ≠ none := by
    obtain ⟨known, hvalue⟩ := hknown
    exact ⟨known, hsame known ▸ hvalue⟩
  refine Settings.provision_congr (fun field => ?_) s words
  rw [Bundle.get?_ofData_of_known hknown, Bundle.get?_ofData_of_known hknown', hsame]

end StoredSecret

/-! ### Provisioning -/

namespace Operator

/-- The answers, with the result of a lookup in the cluster as what the store says. -/
def lookingUp (lookup : Except RequestFault StoredSecret) (answer : (q : Question) → q.Answer) :
    (q : Question) → q.Answer
  | .secrets _ _ => StoredSecret.ofLookup lookup
  | .containers namespaceName => answer (.containers namespaceName)
  | .runningBanner connection => answer (.runningBanner connection)
  | .targetBanner namespaceName => answer (.targetBanner namespaceName)
  | .routeHost namespaceName => answer (.routeHost namespaceName)

variable (namespaceName : String) (answer : (q : Question) → q.Answer)

theorem stored_lookingUp_found (secret : StoredSecret) :
    Reach.stored { store := true } namespaceName (lookingUp (.ok secret) answer)
      = .ok (some secret.toTable) := rfl

theorem stored_lookingUp_absent {refusal : Refusal} (hcode : refusal.code = 404) :
    Reach.stored { store := true } namespaceName (lookingUp (.error (.refused refusal)) answer) = .ok none :=
  if_pos (decide_eq_true hcode)

theorem stored_lookingUp_failed {fault : RequestFault}
    (hfault : ∀ refusal, fault = .refused refusal → refusal.code ≠ 404) :
    Reach.stored { store := true } namespaceName (lookingUp (.error fault) answer)
      = .error (.secretStore fault) := by
  have hpresent : ¬ fault.isAbsent = true := by
    cases fault with
    | refused refusal => exact fun habsent => hfault refusal rfl (of_decide_eq_true habsent)
    | unsendable | transport | notText | unreadable => exact Bool.false_ne_true
  exact if_neg hpresent

end Operator

namespace Session

variable {session : Session} {namespaceName : String} {answer : (q : Question) → q.Answer}

theorem value_take_provision (store : Bool) :
    (session.take (.provision store namespaceName)).value answer
      = told (session.settle
          ((Resolution.provision { store } namespaceName session.settings session.words).value answer)) :=
  session.value_take_stage answer (.provision store namespaceName)

theorem value_provision_of_stored {store : Bool} {stored : Option Table}
    (hstored : Reach.stored { store } namespaceName answer = .ok stored) :
    (session.take (.provision store namespaceName)).value answer
      = (none, ⟨(session.settings.provision stored session.words).1,
          (session.settings.provision stored session.words).2⟩) := by
  rw [value_take_provision, Resolution.value_provision, hstored]
  rfl

theorem value_provision_of_failure {store : Bool} {failure : Failure}
    (hstored : Reach.stored { store } namespaceName answer = .error failure) :
    (session.take (.provision store namespaceName)).value answer = (some failure, session) := by
  rw [value_take_provision, Resolution.value_provision, hstored]
  rfl

/-- What provisioning from a lookup does. A secret of the cluster gives each of the seven secrets, before
the missing ones are generated, the value under its name unless that is empty, as soon as one of the seven
names is there, and then nothing else in it counts; the entries of its text `params` are read only where
none of the names is there. A secret that does not exist is as good as no store, and any other failure of
the lookup ends the work before it has changed anything. -/
theorem provision_of_lookup (session : Session) (namespaceName : String)
    (answer : (q : Question) → q.Answer) :
    (∀ secret : StoredSecret, ∃ kept : Settings,
      (session.take (.provision true namespaceName)).value (Operator.lookingUp (.ok secret) answer)
        = (none, ⟨(kept.generateMissing session.words).1, (kept.generateMissing session.words).2⟩) ∧
      Schema.AgreeOff SecretField.paths session.settings kept ∧
      ∀ field : SecretField,
        ((∃ known : SecretField, secret.value? known.name ≠ none) →
          field.get kept
            = ((secret.value? field.name).filter (· ≠ "")).getD (field.get session.settings)) ∧
        ((∀ known : SecretField, secret.value? known.name = none) →
          (∀ blob, secret.value? "params" = some blob →
            field.get kept
              = (((Params.parse blob).get? field.name).filter (· ≠ "")).getD
                  (field.get session.settings)) ∧
          (secret.value? "params" = none → field.get kept = field.get session.settings))) ∧
    (∀ secret other : StoredSecret,
      (∀ field : SecretField, secret.value? field.name = other.value? field.name) →
      (∃ known : SecretField, secret.value? known.name ≠ none) →
        (session.take (.provision true namespaceName)).value (Operator.lookingUp (.ok secret) answer)
          = (session.take (.provision true namespaceName)).value
              (Operator.lookingUp (.ok other) answer)) ∧
    (∀ refusal : Refusal, refusal.code = 404 →
      (session.take (.provision true namespaceName)).value
          (Operator.lookingUp (.error (.refused refusal)) answer)
        = (session.take (.provision false namespaceName)).value answer) ∧
    ∀ fault : RequestFault, (∀ refusal, fault = .refused refusal → refusal.code ≠ 404) →
      (session.take (.provision true namespaceName)).value (Operator.lookingUp (.error fault) answer)
        = (some (.secretStore fault), session) := by
  refine ⟨fun secret => ?found, fun secret other hsame hknown => ?same, fun refusal hcode => ?absent,
    fun fault hfault => ?failure⟩
  case found =>
    refine ⟨(Bundle.ofData (some secret.toTable)).apply session.settings,
      value_provision_of_stored (Operator.stored_lookingUp_found namespaceName answer secret), ?_,
      fun field => ⟨fun hknown => ?_, fun hnone => ⟨fun blob hblob => ?_, fun hblob => ?_⟩⟩⟩
    · rw [SecretField.agreeOff_iff_fill fun _ => "", Bundle.apply_eq_fill, SecretField.fill_fill]
    · simp only [← secret.get?_toTable] at hknown ⊢
      rw [Bundle.get_apply, Bundle.get?_ofData_of_known hknown]
    · simp only [← secret.get?_toTable] at hnone hblob
      rw [Bundle.get_apply, Bundle.get?_ofData_of_params hnone hblob]
    · simp only [← secret.get?_toTable] at hnone hblob
      rw [Bundle.get_apply, Bundle.get?_ofData_of_nothing hnone hblob]
      rfl
  case same =>
    rw [value_provision_of_stored (Operator.stored_lookingUp_found namespaceName answer secret),
      value_provision_of_stored (Operator.stored_lookingUp_found namespaceName answer other),
      StoredSecret.provision_congr hsame hknown]
  case absent =>
    have hstoreless : Reach.stored { store := false } namespaceName answer = .ok none := rfl
    rw [value_provision_of_stored (Operator.stored_lookingUp_absent namespaceName answer hcode),
      value_provision_of_stored hstoreless]
  case failure =>
    exact value_provision_of_failure (Operator.stored_lookingUp_failed namespaceName answer hfault)

theorem provision_of_lookup_mixed :
    let words : Words := ⟨.constantly 0 (by decide), 0⟩
    let secret : StoredSecret :=
      { data := [("POSTGRESQL_PASSWORD", [0x64, 0x62]), ("SYNDESIS_ENCRYPT_KEY", [0x6B, 0xFF])],
        stringData := Table.ofList [("POSTGRESQL_PASSWORD", ""), ("params", "OAUTH_COOKIE_SECRET=old")] }
    let session : Session := ⟨{ oauthClientSecret := "held" }, words⟩
    ∃ kept : Settings,
      (session.take (.provision true "fuse")).value (Operator.lookingUp (.ok secret) Operator.nothing)
        = (none, ⟨(kept.generateMissing words).1, (kept.generateMissing words).2⟩) ∧
      SecretField.oauthClientSecret.get kept = "held" ∧ SecretField.databasePassword.get kept = "" ∧
      SecretField.encryptKey.get kept = "k\uFFFD" ∧ SecretField.cookieSecret.get kept = "" := by
  intro words secret session
  obtain ⟨kept, hvalue, -, hfields⟩ := (provision_of_lookup session "fuse" Operator.nothing).1 secret
  have hknown : ∃ known : SecretField, secret.value? known.name ≠ none :=
    ⟨.databasePassword, by decide⟩
  refine ⟨kept, hvalue, ?_, ?_, ?_, ?_⟩
  · rw [(hfields _).1 hknown]
    decide
  · rw [(hfields _).1 hknown]
    decide
  · have hbytes : secret.value? SecretField.encryptKey.name = some "k\uFFFD" := by cbv
    rw [(hfields _).1 hknown, hbytes]
    rfl
  · rw [(hfields _).1 hknown]
    decide

end Session

end OperatorConfig
