import TTLockConnect.Ble.Key
import TTLockConnect.Diagnostics.Replies

/-! # Replies that differ only in secrets

`Blind` readers do not see the secrets in a value. All fields but those of the secrets themselves
are read blindly, so `model_validate` makes of two bodies that differ only in secrets records that
differ only in these, or raises the same error (`validate_agree`). -/

namespace TTLockConnect.Diagnostics.Secrets

open TTLockConnect.Text TTLockConnect.Models TTLockConnect.Api TTLockConnect.Webhook.Records
open TTLockConnect.Ble.Key TTLockConnect.Diagnostics.Redaction TTLockConnect.Diagnostics.Replies

variable {keys : List String} {lib : Library} {v w : JsonValue}
  {fields fields' : List (String × JsonValue)} {α β γ δ : Type}

/-! ### Blind readers -/

/-- A reader that does not see secrets. -/
def Blind (keys : List String) (g : JsonValue → β) : Prop :=
  ∀ v w, masked keys v = masked keys w → g v = g w

theorem blind_of_refuses {g : JsonValue → Option β} (hl : ∀ items, g (.list items) = none)
    (hd : ∀ fields, g (.dict fields) = none) : Blind keys g := by
  intro v w h
  rcases masked_eq_cases h with rfl | ⟨items, items', rfl, rfl, -⟩ | ⟨fields, fields', rfl, rfl, -⟩
  · rfl
  · rw [hl, hl]
  · rw [hd, hd]

theorem Blind.comp {g : JsonValue → β} (h : Blind keys g) (f : β → γ) :
    Blind keys fun v => f (g v) := fun v w hvw => congrArg f (h v w hvw)

theorem blind_asStr (hlib : Lawful lib) : Blind keys lib.asStr :=
  blind_of_refuses (fun _ => hlib.asStr_other _ nofun) fun _ => hlib.asStr_other _ nofun

theorem blind_asInt (hlib : Lawful lib) : Blind keys lib.asInt :=
  blind_of_refuses hlib.asInt_list hlib.asInt_dict

theorem blind_asBool (hlib : Lawful lib) : Blind keys lib.asBool :=
  blind_of_refuses hlib.asBool_list hlib.asBool_dict

theorem blind_equalInt : Blind keys (equalInt lib) :=
  blind_of_refuses (fun _ => rfl) fun _ => rfl

theorem blind_onOff : Blind keys (OnOff.of lib) := blind_of_refuses (fun _ => rfl) fun _ => rfl

theorem blind_passcodeType (hlib : Lawful lib) : Blind keys (PasscodeType.of lib) :=
  (blind_asInt hlib).comp _

theorem blind_ekeyStatus : Blind keys EkeyStatus.of := by
  intro v w h
  rcases masked_eq_cases h with rfl | ⟨items, items', rfl, rfl, -⟩ | ⟨fields, fields', rfl, rfl, -⟩
  · rfl
  · rfl
  · rfl

theorem blind_truthy : Blind keys (truthy lib) := by
  intro v w h
  rcases masked_eq_cases h with rfl | ⟨items, items', rfl, rfl, ht⟩ |
    ⟨fields, fields', rfl, rfl, ht⟩
  · rfl
  · have hlen := congrArg List.isEmpty ht
    rw [List.isEmpty_map, List.isEmpty_map] at hlen
    simp only [truthy, hlen]
  · simp only [maskedFields, replaceFields_eq] at ht
    have hlen := congrArg List.isEmpty ht
    rw [List.isEmpty_map, List.isEmpty_map] at hlen
    simp only [truthy, hlen]

/-- A default in the place of what counts as false. -/
theorem masked_orElse (d : JsonValue) (h : masked keys v = masked keys w) :
    masked keys (if truthy lib v then v else d) = masked keys (if truthy lib w then w else d) := by
  rw [blind_truthy v w h]
  split_ifs
  · exact h
  · rfl

theorem Blind.map {g : JsonValue → β} (hg : Blind keys g) :
    ∀ {items items' : List JsonValue}, items.map (masked keys) = items'.map (masked keys) →
      items.map g = items'.map g
  | [], [], _ => rfl
  | v :: items, w :: items', h => by
    obtain ⟨hv, ht⟩ := List.cons_eq_cons.mp h
    rw [List.map_cons, List.map_cons, hg v w hv, hg.map ht]

theorem mapM_option_congr {g : JsonValue → Option β} (hg : Blind keys g) :
    ∀ {items items' : List JsonValue}, items.map (masked keys) = items'.map (masked keys) →
      items.mapM g = items'.mapM g
  | [], [], _ => rfl
  | v :: items, w :: items', h => by
    obtain ⟨hv, ht⟩ := List.cons_eq_cons.mp h
    rw [List.mapM_cons, List.mapM_cons, hg v w hv, mapM_option_congr hg ht]

theorem blind_asIntList (hlib : Lawful lib) : Blind keys (asIntList lib) := by
  intro v w h
  rcases masked_eq_cases h with rfl | ⟨items, items', rfl, rfl, ht⟩ |
    ⟨fields, fields', rfl, rfl, -⟩
  · rfl
  · exact mapM_option_congr (blind_asInt hlib) ht
  · rfl

/-- A point in time, behind a validator that may replace the value. -/
theorem blind_epoch {before : JsonValue → JsonValue}
    (hb : ∀ v w, masked keys v = masked keys w → masked keys (before v) = masked keys (before w)) :
    Blind keys (epochOf lib before) := by
  intro v w h
  unfold epochOf
  rcases masked_eq_cases (hb v w h) with heq | ⟨items, items', hi, hi', -⟩ |
    ⟨fields, fields', hf, hf', -⟩
  · rw [heq]
  · rw [hi, hi']
    rfl
  · rw [hf, hf']
    rfl

/-! ### Fields -/

/-- A value under a key that is no secret's. -/
theorem lookup_congr (h : maskedFields keys fields = maskedFields keys fields') (key : String)
    (hk : key ∉ keys) : (fields.lookup key).map (masked keys) =
      (fields'.lookup key).map (masked keys) := by
  rw [← lookup_maskedFields_of_not_mem hk, h, lookup_maskedFields_of_not_mem hk]

/-- Two values that are alike to `f` and `g` are both missing or both there. -/
theorem map_eq_map_cases {α β γ : Type} {f : α → γ} {g : β → γ} {o : Option α} {o' : Option β}
    (h : o.map f = o'.map g) :
    o = none ∧ o' = none ∨ ∃ v w, o = some v ∧ o' = some w ∧ f v = g w := by
  cases o with
  | none => exact .inl ⟨rfl, Option.map_eq_none_iff.mp h.symm⟩
  | some v =>
    obtain ⟨w, hw, hvw⟩ := Option.map_eq_some_iff.mp h.symm
    exact .inr ⟨v, w, rfl, hw, hvw.symm⟩

/-- Such values are both missing or differ only in secrets. -/
theorem lookup_cases (h : maskedFields keys fields = maskedFields keys fields') (key : String)
    (hk : key ∉ keys) : fields.lookup key = none ∧ fields'.lookup key = none ∨
      ∃ v w, fields.lookup key = some v ∧ fields'.lookup key = some w ∧
        masked keys v = masked keys w :=
  map_eq_map_cases (lookup_congr h key hk)

section Congr
variable (h : maskedFields keys fields = maskedFields keys fields') (key : String)
include h

theorem required_congr (hk : key ∉ keys) {g : JsonValue → Except PyError (Option α)}
    (hg : Blind keys g) : required fields key g = required fields' key g := by
  unfold required
  rcases lookup_cases h key hk with ⟨h1, h2⟩ | ⟨v, w, h1, h2, hvw⟩
  · rw [h1, h2]
  · rw [h1, h2]
    exact hg v w hvw

theorem present_congr (hk : key ∉ keys) {g : JsonValue → Option α} (hg : Blind keys g) :
    present fields key g = present fields' key g := by
  unfold present
  rcases lookup_cases h key hk with ⟨h1, h2⟩ | ⟨v, w, h1, h2, hvw⟩
  · rw [h1, h2]
  · rw [h1, h2]
    exact hg v w hvw

theorem defaulted_congr (hk : key ∉ keys) {g : JsonValue → Option α} (hg : Blind keys g) (d : α) :
    defaulted fields key d g = defaulted fields' key d g := by
  unfold defaulted
  rcases lookup_cases h key hk with ⟨h1, h2⟩ | ⟨v, w, h1, h2, hvw⟩
  · rw [h1, h2]
  · rw [h1, h2]
    exact hg v w hvw

theorem optional_congr (hk : key ∉ keys) {g : JsonValue → Option α} (hg : Blind keys g) :
    optional fields key g = optional fields' key g := by
  unfold TTLockConnect.Webhook.Records.optional
  rcases lookup_cases h key hk with ⟨h1, h2⟩ | ⟨v, w, h1, h2, hvw⟩
  · rw [h1, h2]
  · rw [h1, h2]
    rcases masked_eq_cases hvw with rfl | ⟨items, items', rfl, rfl, -⟩ | ⟨fs, fs', rfl, rfl, -⟩
    · rfl
    · exact congrArg (Option.map some) (hg _ _ hvw)
    · exact congrArg (Option.map some) (hg _ _ hvw)

theorem optionalEpoch_congr (hk : key ∉ keys) (before : JsonValue → JsonValue)
    (hb : ∀ v w, masked keys v = masked keys w → masked keys (before v) = masked keys (before w)) :
    optionalEpoch fields lib before key = optionalEpoch fields' lib before key := by
  unfold optionalEpoch
  rcases lookup_cases h key hk with ⟨h1, h2⟩ | ⟨v, w, h1, h2, hvw⟩
  · rw [h1, h2]
  · rw [h1, h2]
    exact blind_epoch hb v w hvw

theorem jsonField_congr (hk : key ∉ keys) :
    jsonField lib (fields.lookup key) = jsonField lib (fields'.lookup key) := by
  rcases lookup_cases h key hk with ⟨h1, h2⟩ | ⟨v, w, h1, h2, hvw⟩
  · rw [h1, h2]
  · rw [h1, h2]
    rcases masked_eq_cases hvw with rfl | ⟨items, items', rfl, rfl, -⟩ | ⟨fs, fs', rfl, rfl, -⟩
    · rfl
    · rfl
    · rfl

end Congr

/-! ### The fields of the secrets -/

/-- A secret text, hidden. -/
def hidden (_ : String) : String := ""

/-- Two values that are the same once hidden are both texts or none of them is. -/
theorem asStr_hidden (hlib : Lawful lib)
    (h : (hide v).getD (masked keys v) = (hide w).getD (masked keys w)) :
    (lib.asStr v).map hidden = (lib.asStr w).map hidden := by
  by_cases hv : ∃ s, v = .str s
  · obtain ⟨s, rfl⟩ := hv
    cases w with
    | str t =>
      rw [hlib.asStr_str, hlib.asStr_str]
      rfl
    | _ => cases h
  · by_cases hw : ∃ s, w = .str s
    · obtain ⟨s, rfl⟩ := hw
      cases v with
      | str t => exact absurd ⟨t, rfl⟩ hv
      | _ => cases h
    · rw [hlib.asStr_other v fun s hs => hv ⟨s, hs⟩, hlib.asStr_other w fun s hs => hw ⟨s, hs⟩]

/-- Two values that are the same once hidden are both missing, null, or none of these. -/
theorem null_hidden (h : (hide v).getD (masked keys v) = (hide w).getD (masked keys w)) :
    v = .null ↔ w = .null := by
  constructor
  · rintro rfl
    cases w with
    | null => rfl
    | _ => cases h
  · rintro rfl
    cases v with
    | null => rfl
    | _ => cases h

theorem lookup_secret_cases (h : maskedFields keys fields = maskedFields keys fields')
    (key : String) (hk : key ∈ keys) : fields.lookup key = none ∧ fields'.lookup key = none ∨
      ∃ v w, fields.lookup key = some v ∧ fields'.lookup key = some w ∧
        (hide v).getD (masked keys v) = (hide w).getD (masked keys w) := by
  have hl : (maskedFields keys fields).lookup key = (maskedFields keys fields').lookup key := by
    rw [h]
  rw [lookup_maskedFields_of_mem hk, lookup_maskedFields_of_mem hk] at hl
  exact map_eq_map_cases hl

theorem present_secret (hlib : Lawful lib) (h : maskedFields keys fields = maskedFields keys fields')
    (key : String) (hk : key ∈ keys) : (present fields key lib.asStr).map hidden =
      (present fields' key lib.asStr).map hidden := by
  unfold present
  rcases lookup_secret_cases h key hk with ⟨h1, h2⟩ | ⟨v, w, h1, h2, hvw⟩
  · rw [h1, h2]
  · rw [h1, h2]
    exact asStr_hidden hlib hvw

theorem optional_of_some {key : String} (hv : fields.lookup key = some v) (hne : v ≠ .null)
    (g : JsonValue → Option α) : optional fields key g = (g v).map some := by
  unfold TTLockConnect.Webhook.Records.optional
  rw [hv]
  cases v with
  | null => exact absurd rfl hne
  | _ => rfl

theorem optional_secret (hlib : Lawful lib)
    (h : maskedFields keys fields = maskedFields keys fields') (key : String) (hk : key ∈ keys) :
    (optional fields key lib.asStr).map (Option.map hidden) =
      (optional fields' key lib.asStr).map (Option.map hidden) := by
  rcases lookup_secret_cases h key hk with ⟨h1, h2⟩ | ⟨v, w, h1, h2, hvw⟩
  · unfold TTLockConnect.Webhook.Records.optional
    rw [h1, h2]
  · by_cases hv : v = .null
    · unfold TTLockConnect.Webhook.Records.optional
      rw [h1, h2, hv, (null_hidden hvw).mp hv]
    · have hw : w ≠ .null := fun hw => hv ((null_hidden hvw).mpr hw)
      have hcomm : (Option.map hidden ∘ some : String → Option String) = some ∘ hidden := rfl
      rw [optional_of_some h1 hv, optional_of_some h2 hw, Option.map_map, Option.map_map, hcomm,
        ← Option.map_map, asStr_hidden hlib hvw, Option.map_map]

/-! ### Records -/

/-- A passcode without its PIN. -/
def Passcode.masked (p : Passcode) : Passcode := { p with passcode := p.passcode.map hidden }

/-- An eKey without its receiver. -/
def Ekey.masked (e : Ekey) : Ekey := { e with username := e.username.map hidden }

/-- An AES key, hidden up to whether it can be read. -/
def hiddenKey (value : String) : String :=
  if (parseAesKey value).toBool then "00000000000000000000000000000000" else ""

/-- The details of a lock without its key. -/
def Lock.masked (l : Lock) : Lock := { l with aesKeyStr := l.aesKeyStr.map hiddenKey }

/-- A reply without its secrets. -/
def maskedReply : (q : Request) → Reply q → Reply q
  | .detail _, l => Lock.masked l
  | .listKeyboardPwd _, passcodes => passcodes.map Passcode.masked
  | .listKey _, ekeys => ekeys.map Ekey.masked
  | _, a => a

theorem orInvalid_map (o : Option α) (f : α → β) : (orInvalid o).map f = orInvalid (o.map f) := by
  cases o with
  | none => rfl
  | some a => rfl

theorem map_id_except {ε : Type} (r : Except ε α) : r.map id = r := by
  cases r with
  | ok a => rfl
  | error err => rfl

/-- A value that is used only up to `f`. -/
theorem bind_map_congr {a b : Option α} {k k' : α → Option β} {f : α → γ} {g : β → δ}
    (h : a.map f = b.map f) (hk : ∀ x y, f x = f y → (k x).map g = (k' y).map g) :
    (a.bind k).map g = (b.bind k').map g := by
  cases a with
  | none =>
    cases b with
    | none => rfl
    | some y => cases h
  | some x =>
    cases b with
    | none => cases h
    | some y => exact hk x y (Option.some.inj h)

theorem bind_same_congr {a : Option α} {k k' : α → Option β} {g : β → δ}
    (hk : ∀ x, (k x).map g = (k' x).map g) : (a.bind k).map g = (a.bind k').map g := by
  cases a with
  | none => rfl
  | some x => exact hk x

/-- A record whose fields differ only in secrets, in whatever way it is read from them. -/
theorem modelValidate_agree {validate : JsonValue → Except PyError α} {f : α → β}
    (hother : ∀ items, validate (.list items) = .error .validationError)
    (hdict : ∀ fields fields', maskedFields keys fields = maskedFields keys fields' →
      (validate (.dict fields)).map f = (validate (.dict fields')).map f)
    (h : masked keys v = masked keys w) : (validate v).map f = (validate w).map f := by
  rcases masked_eq_cases h with rfl | ⟨items, items', rfl, rfl, -⟩ |
    ⟨fields, fields', rfl, rfl, hf⟩
  · rfl
  · rw [hother, hother]
  · exact hdict fields fields' hf

theorem passcode_agree (hlib : Lawful lib) (h : masked SECRETS v = masked SECRETS w) :
    (Passcode.modelValidate lib v).map Passcode.masked =
      (Passcode.modelValidate lib w).map Passcode.masked := by
  refine modelValidate_agree (fun _ => rfl) (fun fields fields' hf => ?_) h
  simp only [Passcode.modelValidate]
  rw [optionalEpoch_congr hf "startDate" (by decide) id fun _ _ h => h,
    optionalEpoch_congr hf "endDate" (by decide) id fun _ _ h => h,
    optional_congr hf "keyboardPwdId" (by decide) (blind_asInt hlib),
    optional_congr hf "keyboardPwdName" (by decide) (blind_asStr hlib),
    optional_congr hf "keyboardPwdType" (by decide) (blind_passcodeType hlib)]
  cases optionalEpoch fields' lib id "startDate" with
  | error err => rfl
  | ok startDate =>
    cases optionalEpoch fields' lib id "endDate" with
    | error err => rfl
    | ok endDate =>
      refine (orInvalid_map _ _).trans (Eq.trans (congrArg orInvalid ?_) (orInvalid_map _ _).symm)
      refine bind_map_congr (optional_secret hlib hf "keyboardPwd" (by decide)) fun p q hpq => ?_
      simp only [Option.bind_eq_bind, Option.map_bind, Function.comp_def, Option.map_some,
        Passcode.masked, hpq]

theorem ekey_agree (hlib : Lawful lib) (h : masked SECRETS v = masked SECRETS w) :
    (Ekey.modelValidate lib v).map Ekey.masked = (Ekey.modelValidate lib w).map Ekey.masked := by
  refine modelValidate_agree (fun _ => rfl) (fun fields fields' hf => ?_) h
  have hstatus : Blind SECRETS fun v => some (EkeyStatus.of v) := blind_ekeyStatus.comp some
  simp only [Ekey.modelValidate]
  rw [optionalEpoch_congr hf "startDate" (by decide) (zeroIsPermanent lib)
      fun _ _ => masked_orElse .null,
    optionalEpoch_congr hf "endDate" (by decide) (zeroIsPermanent lib)
      fun _ _ => masked_orElse .null,
    optional_congr hf "keyId" (by decide) (blind_asInt hlib),
    optional_congr hf "lockId" (by decide) (blind_asInt hlib),
    optional_congr hf "keyName" (by decide) (blind_asStr hlib),
    optional_congr hf "senderUsername" (by decide) (blind_asStr hlib),
    defaulted_congr hf "keyStatus" (by decide) hstatus,
    optional_congr hf "keyRight" (by decide) (blind_asInt hlib),
    defaulted_congr hf "remoteEnable" (by decide) blind_onOff,
    optional_congr hf "remarks" (by decide) (blind_asStr hlib)]
  cases optionalEpoch fields' lib (zeroIsPermanent lib) "startDate" with
  | error err => rfl
  | ok startDate =>
    cases optionalEpoch fields' lib (zeroIsPermanent lib) "endDate" with
    | error err => rfl
    | ok endDate =>
      refine (orInvalid_map _ _).trans (Eq.trans (congrArg orInvalid ?_) (orInvalid_map _ _).symm)
      refine bind_map_congr (optional_secret hlib hf "username" (by decide)) fun p q hpq => ?_
      simp only [Option.bind_eq_bind, Option.map_bind, Function.comp_def, Option.map_some,
        Ekey.masked, hpq]

/-- The `lockVersion` of a reply, whose numbers may be given as texts. -/
def versionOf : JsonValue → Option JsonValue
  | .dict fields => fields.lookup "lockVersion"
  | _ => none

/-- The key of a reply can be read. -/
def keyReadable : JsonValue → Bool
  | .dict fields =>
    match fields.lookup "aesKeyStr" with
    | some (.str value) => (parseAesKey value).toBool
    | _ => false
  | _ => false

/-- Two replies to `lock/detail` that allow Bluetooth alike. -/
structure SameBluetooth (v w : JsonValue) : Prop where
  version : versionOf v = versionOf w
  key : keyReadable v = keyReadable w

theorem optional_key (hlib : Lawful lib)
    (h : maskedFields SECRETS fields = maskedFields SECRETS fields')
    (hk : keyReadable (.dict fields) = keyReadable (.dict fields')) :
    (optional fields "aesKeyStr" lib.asStr).map (Option.map hiddenKey) =
      (optional fields' "aesKeyStr" lib.asStr).map (Option.map hiddenKey) := by
  have hsecret := optional_secret hlib h "aesKeyStr" (by decide)
  rcases lookup_secret_cases h "aesKeyStr" (by decide) with ⟨h1, h2⟩ | ⟨v, w, h1, h2, hvw⟩
  · unfold TTLockConnect.Webhook.Records.optional
    rw [h1, h2]
  · simp only [keyReadable, h1, h2] at hk
    by_cases hs : ∃ s, v = .str s
    · obtain ⟨s, rfl⟩ := hs
      cases w with
      | str t =>
        have hst : hiddenKey s = hiddenKey t := by
          unfold hiddenKey
          rw [show (parseAesKey s).toBool = (parseAesKey t).toBool from hk]
        rw [optional_of_some h1 nofun, optional_of_some h2 nofun, hlib.asStr_str, hlib.asStr_str]
        simp only [Option.map_some, hst]
      | _ => cases hvw
    · have hone {o o' : Option (Option String)} (ho : o.map (Option.map hidden) =
          o'.map (Option.map hidden)) (hno : ∀ s, o ≠ some (some s)) :
          o.map (Option.map hiddenKey) = o'.map (Option.map hiddenKey) := by
        match o, o', ho with
        | none, none, _ => rfl
        | some none, some none, _ => rfl
        | some (some s), _, _ => exact absurd rfl (hno s)
      refine hone hsecret fun s hopt => ?_
      by_cases hv : v = .null
      · unfold TTLockConnect.Webhook.Records.optional at hopt
        rw [h1, hv] at hopt
        cases hopt
      · rw [optional_of_some h1 hv, hlib.asStr_other v fun s hs' => hs ⟨s, hs'⟩] at hopt
        cases hopt

theorem lock_agree (hlib : Lawful lib) (h : masked SECRETS v = masked SECRETS w)
    (hb : SameBluetooth v w) :
    (Lock.modelValidate lib v).map Lock.masked = (Lock.modelValidate lib w).map Lock.masked := by
  rcases masked_eq_cases h with rfl | ⟨items, items', rfl, rfl, -⟩ |
    ⟨fields, fields', rfl, rfl, hf⟩
  · rfl
  · rfl
  · have hversion : optional fields "lockVersion" (asVersion lib) =
        optional fields' "lockVersion" (asVersion lib) := by
      unfold TTLockConnect.Webhook.Records.optional
      rw [show fields.lookup "lockVersion" = fields'.lookup "lockVersion" from hb.version]
    simp only [Lock.modelValidate]
    rw [present_congr hf "lockMac" (by decide) (blind_asStr hlib),
      present_congr hf "lockId" (by decide) (blind_asInt hlib),
      present_congr hf "lockName" (by decide) (blind_asStr hlib),
      defaulted_congr hf "lockAlias" (by decide) (blind_asStr hlib),
      optional_congr hf "electricQuantity" (by decide) (blind_asInt hlib),
      optional_congr hf "featureValue" (by decide) (blind_asStr hlib),
      defaulted_congr hf "timezoneRawOffset" (by decide) (blind_asInt hlib),
      optional_congr hf "modelNum" (by decide) (blind_asStr hlib),
      optional_congr hf "hardwareRevision" (by decide) (blind_asStr hlib),
      optional_congr hf "firmwareRevision" (by decide) (blind_asStr hlib),
      optional_congr hf "autoLockTime" (by decide) (blind_asInt hlib),
      defaulted_congr hf "lockSound" (by decide) blind_onOff,
      defaulted_congr hf "privacyLock" (by decide) blind_onOff,
      defaulted_congr hf "tamperAlert" (by decide) blind_onOff,
      defaulted_congr hf "resetButton" (by decide) blind_onOff,
      defaulted_congr hf "openDirection" (by decide) blind_onOff,
      defaulted_congr hf "passageMode" (by decide) blind_onOff,
      defaulted_congr hf "passageModeAutoUnlock" (by decide) blind_onOff,
      present_congr hf "date" (by decide) (blind_asInt hlib), hversion, orInvalid_map, orInvalid_map]
    refine congrArg orInvalid ?_
    refine bind_map_congr (present_secret hlib hf "adminPwd" (by decide)) fun _ _ _ => ?_
    refine bind_map_congr (optional_key hlib hf hb.key) fun p q hpq => ?_
    -- the other fields are the same
    iterate 20 refine bind_same_congr fun _ => ?_
    simp only [Option.map_some, Lock.masked, hpq]

theorem sensor_blind (hlib : Lawful lib) : Blind SECRETS (Sensor.modelValidate lib) := by
  intro v w h
  rcases masked_eq_cases h with rfl | ⟨items, items', rfl, rfl, -⟩ |
    ⟨fields, fields', rfl, rfl, hf⟩
  · rfl
  · rfl
  · simp only [Sensor.modelValidate]
    rw [present_congr hf "doorSensorId" (by decide) (blind_asInt hlib),
      defaulted_congr hf "name" (by decide) (blind_asStr hlib),
      optional_congr hf "electricQuantity" (by decide) (blind_asInt hlib),
      present_congr hf "mac" (by decide) (blind_asStr hlib)]

theorem gatewayLink_blind (hlib : Lawful lib) : Blind SECRETS (GatewayLink.modelValidate lib) := by
  intro v w h
  rcases masked_eq_cases h with rfl | ⟨items, items', rfl, rfl, -⟩ |
    ⟨fields, fields', rfl, rfl, hf⟩
  · rfl
  · rfl
  · simp only [GatewayLink.modelValidate]
    rw [present_congr hf "gatewayId" (by decide) (blind_asInt hlib),
      present_congr hf "gatewayName" (by decide) (blind_asStr hlib),
      present_congr hf "gatewayMac" (by decide) (blind_asStr hlib),
      present_congr hf "rssi" (by decide) (blind_asInt hlib)]

theorem gateway_blind (hlib : Lawful lib) : Blind SECRETS (Gateway.modelValidate lib) := by
  intro v w h
  rcases masked_eq_cases h with rfl | ⟨items, items', rfl, rfl, -⟩ |
    ⟨fields, fields', rfl, rfl, hf⟩
  · rfl
  · rfl
  · simp only [Gateway.modelValidate]
    rw [present_congr hf "gatewayId" (by decide) (blind_asInt hlib),
      present_congr hf "gatewayName" (by decide) (blind_asStr hlib),
      present_congr hf "gatewayMac" (by decide) (blind_asStr hlib),
      present_congr hf "isOnline" (by decide) (blind_asBool hlib),
      optional_congr hf "networkName" (by decide) (blind_asStr hlib)]

/-- Of `lockData` nothing but its type matters. -/
theorem lockSummary_blind (hlib : Lawful lib) : Blind SECRETS (LockSummary.modelValidate lib) := by
  intro v w h
  have hagree : (LockSummary.modelValidate lib v).map id = (LockSummary.modelValidate lib w).map id := by
    refine modelValidate_agree (fun _ => rfl) (fun fields fields' hf => ?_) h
    simp only [LockSummary.modelValidate]
    rw [present_congr hf "lockMac" (by decide) (blind_asStr hlib),
      present_congr hf "lockId" (by decide) (blind_asInt hlib),
      defaulted_congr hf "lockAlias" (by decide) (blind_asStr hlib),
      optional_congr hf "featureValue" (by decide) (blind_asStr hlib),
      defaulted_congr hf "hasGateway" (by decide) (blind_asInt hlib), orInvalid_map, orInvalid_map]
    refine congrArg orInvalid ?_
    exact bind_map_congr (optional_secret hlib hf "lockData" (by decide)) fun _ _ _ => rfl
  rw [map_id_except, map_id_except] at hagree
  exact hagree

theorem passageModeConfig_blind (hlib : Lawful lib) :
    Blind SECRETS (PassageModeConfig.modelValidate lib) := by
  intro v w h
  rcases masked_eq_cases h with rfl | ⟨items, items', rfl, rfl, -⟩ |
    ⟨fields, fields', rfl, rfl, hf⟩
  · rfl
  · rfl
  · have hminute : Blind SECRETS fun v => lib.asInt (orZero lib v) :=
      fun v w h => blind_asInt hlib _ _ (masked_orElse _ h)
    simp only [PassageModeConfig.modelValidate]
    rw [defaulted_congr hf "passageMode" (by decide) blind_onOff,
      defaulted_congr hf "startDate" (by decide) hminute,
      defaulted_congr hf "endDate" (by decide) hminute,
      defaulted_congr hf "isAllDay" (by decide) blind_onOff,
      defaulted_congr hf "weekDays" (by decide) (blind_asIntList hlib),
      defaulted_congr hf "autoUnlock" (by decide) blind_onOff]

theorem openStateBody_blind : Blind SECRETS (openStateBody lib) := by
  intro v w h
  rcases masked_eq_cases h with rfl | ⟨items, items', rfl, rfl, -⟩ |
    ⟨fields, fields', rfl, rfl, hf⟩
  · rfl
  · rfl
  · simp only [openStateBody]
    rw [jsonField_congr hf "state" (by decide), jsonField_congr hf "sensorState" (by decide)]

theorem commandBody_blind : Blind SECRETS (commandBody lib) := by
  intro v w h
  rcases masked_eq_cases h with rfl | ⟨items, items', rfl, rfl, -⟩ |
    ⟨fields, fields', rfl, rfl, hf⟩
  · rfl
  · rfl
  · simp only [commandBody]
    rcases lookup_cases hf "errcode" (by decide) with ⟨h1, h2⟩ | ⟨v, w, h1, h2, hvw⟩
    · rw [h1, h2]
    · rw [h1, h2, Option.map_some, Option.map_some, blind_equalInt v w hvw]

/-! ### Lists of records -/

theorem mapM_map_congr {f : JsonValue → Except PyError α} {g : α → β}
    (hf : ∀ v w, masked keys v = masked keys w → (f v).map g = (f w).map g) :
    ∀ {items items' : List JsonValue}, items.map (masked keys) = items'.map (masked keys) →
      (items.mapM f).map (List.map g) = (items'.mapM f).map (List.map g)
  | [], [], _ => rfl
  | v :: items, w :: items', h => by
    obtain ⟨hv, ht⟩ := List.cons_eq_cons.mp h
    have h1 := hf v w hv
    have h2 := mapM_map_congr hf ht
    rw [List.mapM_cons, List.mapM_cons]
    generalize f v = x at h1 ⊢
    generalize f w = y at h1 ⊢
    generalize items.mapM f = xs at h2 ⊢
    generalize items'.mapM f = ys at h2 ⊢
    cases x with
    | error err =>
      cases y with
      | error err' => exact congrArg Except.error (Except.error.inj h1)
      | ok b => cases h1
    | ok a =>
      cases y with
      | error err => cases h1
      | ok b =>
        cases xs with
        | error err =>
          cases ys with
          | error err' => exact congrArg Except.error (Except.error.inj h2)
          | ok bs => cases h2
        | ok as =>
          cases ys with
          | error err => cases h2
          | ok bs =>
            exact congrArg Except.ok (congrArg₂ List.cons (Except.ok.inj h1) (Except.ok.inj h2))

/-- What a loop goes through, in two values that differ only in secrets. -/
theorem iterate_congr (h : masked keys v = masked keys w) :
    (iterate v).map (List.map (masked keys)) = (iterate w).map (List.map (masked keys)) := by
  rcases masked_eq_cases h with rfl | ⟨items, items', rfl, rfl, ht⟩ |
    ⟨fields, fields', rfl, rfl, ht⟩
  · rfl
  · exact congrArg Except.ok ht
  · -- of a dict, the keys, which are never hidden
    simp only [maskedFields, replaceFields_eq] at ht
    have hkeys := congrArg (List.map fun e => masked keys (.str e.1)) ht
    rw [List.map_map, List.map_map] at hkeys
    simp only [iterate, Except.map, List.map_map]
    exact congrArg Except.ok hkeys

theorem listOf_agree {validate : JsonValue → Except PyError α} {f : α → β}
    (hval : ∀ v w, masked SECRETS v = masked SECRETS w → (validate v).map f = (validate w).map f)
    (h : masked SECRETS v = masked SECRETS w) :
    (listOf validate v).map (List.map f) = (listOf validate w).map (List.map f) := by
  rcases masked_eq_cases h with rfl | ⟨items, items', rfl, rfl, -⟩ |
    ⟨fields, fields', rfl, rfl, hf⟩
  · rfl
  · rfl
  · simp only [listOf]
    rcases lookup_cases hf "list" (by decide) with ⟨h1, h2⟩ | ⟨v, w, h1, h2, hvw⟩
    · rw [h1, h2]
    · rw [h1, h2]
      have hit := iterate_congr hvw
      dsimp only
      generalize iterate v = x at hit ⊢
      generalize iterate w = y at hit ⊢
      cases x with
      | error err =>
        cases y with
        | error err' => exact congrArg Except.error (Except.error.inj hit)
        | ok items' => cases hit
      | ok items =>
        cases y with
        | error err => cases hit
        | ok items' => exact mapM_map_congr hval (Except.ok.inj hit)

/-- **What is made of two replies that differ only in secrets differs only in these.** -/
theorem validate_agree (hlib : Lawful lib) (q : Request) (h : masked SECRETS v = masked SECRETS w)
    (hb : ∀ i, q = .detail i → SameBluetooth v w) :
    (validate lib q v).map (maskedReply q) = (validate lib q w).map (maskedReply q) := by
  cases q with
  | detail i => exact lock_agree hlib h (hb i rfl)
  | listKeyboardPwd i => exact listOf_agree (fun _ _ => passcode_agree hlib) h
  | listKey i => exact listOf_agree (fun _ _ => ekey_agree hlib) h
  | doorSensor i => exact congrArg (Except.map id) (sensor_blind hlib v w h)
  | queryOpenState i => exact congrArg (Except.map id) (openStateBody_blind v w h)
  | passageModeConfig i => exact congrArg (Except.map id) (passageModeConfig_blind hlib v w h)
  | listByLock i =>
    have hlist := listOf_agree (f := id)
      (fun v w h => congrArg (Except.map id) (gatewayLink_blind hlib v w h)) h
    rw [List.map_id_fun] at hlist
    exact hlist
  | lock i => exact congrArg (Except.map id) (commandBody_blind v w h)
  | unlock i => exact congrArg (Except.map id) (commandBody_blind v w h)
  | setAutoLockTime i n => exact congrArg (Except.map id) (commandBody_blind v w h)
  | updateSetting i n => exact congrArg (Except.map id) (commandBody_blind v w h)
  | queryLockStatus _ _ _ _ => rfl
  | storeLoad => rfl
  | storeSave => rfl
  | sleep _ => rfl

end TTLockConnect.Diagnostics.Secrets
