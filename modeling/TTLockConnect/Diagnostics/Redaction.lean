import TTLockConnect.Webhook.Records

/-! # Redaction, and what counts as secret

`async_redact_data` and the hiding of secrets, by which two runs are compared, are one traversal: in
every dict of a JSON value, at any depth, the value under a key may be replaced. -/

namespace TTLockConnect.Diagnostics.Redaction

open TTLockConnect.Text TTLockConnect.Models TTLockConnect.Webhook.Records

/-! ### Replacing values under keys -/

mutual

/-- In every dict, at any depth, `f` says what stands for the value under a key, if anything. -/
def replace (f : String → JsonValue → Option JsonValue) : JsonValue → JsonValue
  | .list items => .list (replaceItems f items)
  | .dict fields => .dict (replaceFields f fields)
  | v => v

def replaceItems (f : String → JsonValue → Option JsonValue) : List JsonValue → List JsonValue
  | [] => []
  | v :: items => replace f v :: replaceItems f items

def replaceFields (f : String → JsonValue → Option JsonValue) :
    List (String × JsonValue) → List (String × JsonValue)
  | [] => []
  | (key, v) :: fields => (key, (f key v).getD (replace f v)) :: replaceFields f fields

end

section Replace
variable {f : String → JsonValue → Option JsonValue}

theorem replaceItems_eq (items : List JsonValue) : replaceItems f items = items.map (replace f) := by
  induction items with
  | nil => rfl
  | cons v items ih => rw [replaceItems, ih, List.map_cons]

theorem replaceFields_eq (fields : List (String × JsonValue)) : replaceFields f fields =
    fields.map fun e => (e.1, (f e.1 e.2).getD (replace f e.2)) := by
  induction fields with
  | nil => rfl
  | cons e fields ih => rw [replaceFields, ih, List.map_cons]

theorem lookup_replaceFields (key : String) (fields : List (String × JsonValue)) :
    (replaceFields f fields).lookup key =
      (fields.lookup key).map fun v => (f key v).getD (replace f v) := by
  induction fields with
  | nil => rfl
  | cons e fields ih =>
    obtain ⟨k, v⟩ := e
    rw [replaceFields, List.lookup_cons, List.lookup_cons]
    cases hk : key == k with
    | true =>
      rw [eq_of_beq hk]
      rfl
    | false => exact ih

end Replace

/-! ### `async_redact_data` -/

/-- `TO_REDACT`. -/
def TO_REDACT : List String :=
  ["token", "lockKey", "aesKeyStr", "adminPwd", "deletePwd", "noKeyPwd", "lockData", "webhook_id",
    "webhook_url", "pin_codes", "ekeys"]

/-- `REDACTED`. -/
def REDACTED : JsonValue := .str "**REDACTED**"

/-- `async_redact_data(value, TO_REDACT)`: the values of the listed keys are replaced at every depth
of dicts and lists, and everything else stays. -/
def asyncRedactData : JsonValue → JsonValue :=
  replace fun key _ => if key ∈ TO_REDACT then some REDACTED else none

theorem asyncRedactData_dict (fields : List (String × JsonValue)) :
    asyncRedactData (.dict fields) = .dict (fields.map fun e =>
      (e.1, if e.1 ∈ TO_REDACT then REDACTED else asyncRedactData e.2)) := by
  rw [asyncRedactData, replace, replaceFields_eq]
  congr 2
  funext e
  split_ifs
  · rfl
  · rfl

theorem asyncRedactData_list (items : List JsonValue) :
    asyncRedactData (.list items) = .list (items.map asyncRedactData) := by
  rw [asyncRedactData, replace, replaceItems_eq]

/-! ### Secrets -/

/-- The keys of PINs. -/
def PIN_KEYS : List String := ["keyboardPwd", "newKeyboardPwd"]

/-- The keys of eKey receivers' accounts. -/
def RECEIVER_KEYS : List String := ["receiverUsername", "username"]

/-- The lock keys that `TO_REDACT` names. -/
def LOCK_KEYS : List String :=
  ["lockKey", "aesKeyStr", "adminPwd", "deletePwd", "noKeyPwd", "lockData"]

/-- What is secret in the traffic with the API. -/
def SECRETS : List String := PIN_KEYS ++ RECEIVER_KEYS ++ LOCK_KEYS

/-- What is secret in the records of a webhook post, whose `username` is the operator's. -/
def RECORD_SECRETS : List String := PIN_KEYS ++ LOCK_KEYS

/-- A secret text or number, hidden. -/
def hide : JsonValue → Option JsonValue
  | .str _ => some (.str "")
  | .int _ => some (.int 0)
  | .float _ => some (.float "")
  | _ => none

/-- The replacement of the secrets under `keys`. -/
def hideAt (keys : List String) (key : String) (v : JsonValue) : Option JsonValue :=
  if key ∈ keys then hide v else none

/-- A value without its secrets. Two values with the same `masked` differ only in these. -/
def masked (keys : List String) : JsonValue → JsonValue := replace (hideAt keys)

/-- The fields of a dict without its secrets. -/
def maskedFields (keys : List String) : List (String × JsonValue) → List (String × JsonValue) :=
  replaceFields (hideAt keys)

section Masked
variable {keys : List String} {fields fields' : List (String × JsonValue)} {key : String}

theorem masked_dict_inj (h : masked keys (.dict fields) = masked keys (.dict fields')) :
    maskedFields keys fields = maskedFields keys fields' := JsonValue.dict.inj h

theorem masked_list (items : List JsonValue) :
    masked keys (.list items) = .list (items.map (masked keys)) :=
  congrArg JsonValue.list (replaceItems_eq items)

/-- Two values that differ only in secrets are of one kind. -/
theorem masked_eq_cases {v w : JsonValue} (h : masked keys v = masked keys w) : v = w ∨
    (∃ items items', v = .list items ∧ w = .list items' ∧
      items.map (masked keys) = items'.map (masked keys)) ∨
    ∃ fields fields', v = .dict fields ∧ w = .dict fields' ∧
      maskedFields keys fields = maskedFields keys fields' := by
  cases v with
  | list items =>
    cases w with
    | list items' =>
      rw [masked_list, masked_list] at h
      exact .inr (.inl ⟨items, items', rfl, rfl, JsonValue.list.inj h⟩)
    | _ => cases h
  | dict fields =>
    cases w with
    | dict fields' => exact .inr (.inr ⟨fields, fields', rfl, rfl, masked_dict_inj h⟩)
    | _ => cases h
  | _ =>
    left
    cases w with
    | list items => cases h
    | dict fields => cases h
    | _ => exact h

theorem lookup_maskedFields_of_not_mem (hk : key ∉ keys) :
    (maskedFields keys fields).lookup key = (fields.lookup key).map (masked keys) := by
  rw [maskedFields, lookup_replaceFields]
  congr 1
  funext v
  rw [hideAt, if_neg hk]
  rfl

theorem lookup_maskedFields_of_mem (hk : key ∈ keys) :
    (maskedFields keys fields).lookup key =
      (fields.lookup key).map fun v => (hide v).getD (masked keys v) := by
  rw [maskedFields, lookup_replaceFields]
  congr 1
  funext v
  rw [hideAt, if_pos hk]
  rfl

end Masked

end TTLockConnect.Diagnostics.Redaction
