import TTLockConnect.Models

/-! # The records of a webhook post

`WebhookHandler.handle_webhook` walks through the records of all `records` fields in two loops under
one `try`, and dispatches each record as soon as it is validated. So the first field or record that
raises ends the walk. What `json` reads and what pydantic and `dt_util` make of a value of a basic
type are parameters; the record's own validators are the code's. -/

namespace TTLockConnect.Webhook.Records

open TTLockConnect.Text TTLockConnect.Models

/-! ### Attempts in a row, up to the first that fails -/

section Attempts
variable {ε α : Type}

/-- The values in front of the first error, and that error. -/
def upToError : List (Except ε α) → List α × Option ε
  | [] => ([], none)
  | .error err :: _ => ([], some err)
  | .ok a :: rest => (a :: (upToError rest).1, (upToError rest).2)

/-- All values, whatever fails between them. -/
def values (attempts : List (Except ε α)) : List α := attempts.filterMap Except.toOption

theorem values_append (as bs : List (Except ε α)) : values (as ++ bs) = values as ++ values bs :=
  List.filterMap_append

theorem values_flatMap {β : Type} (f : β → List (Except ε α)) (bs : List β) :
    values (bs.flatMap f) = bs.flatMap fun b => values (f b) := by
  induction bs with
  | nil => rfl
  | cons b bs ih => rw [List.flatMap_cons, values_append, ih, List.flatMap_cons]

theorem values_eq_nil_iff {as : List (Except ε α)} : values as = [] ↔ ∀ a ∈ as, a.toBool = false := by
  unfold values
  rw [List.filterMap_eq_nil_iff]
  refine forall_congr' fun a => forall_congr' fun _ => ?_
  cases a with
  | ok a => exact iff_of_false nofun nofun
  | error err => exact iff_of_true rfl rfl

/-- Where nothing fails first, the walk goes on. -/
theorem upToError_append {as bs : List (Except ε α)} : upToError (as ++ bs) =
    match (upToError as).2 with
    | some err => ((upToError as).1, some err)
    | none => ((upToError as).1 ++ (upToError bs).1, (upToError bs).2) := by
  induction as with
  | nil => rfl
  | cons a as ih =>
    cases a with
    | error err => rfl
    | ok a =>
      simp only [List.cons_append, upToError]
      rw [ih]
      cases (upToError as).2 with
      | some err => rfl
      | none => rfl

theorem upToError_of_ok {as : List (Except ε α)} (h : ∀ a ∈ as, a.toBool = true) :
    upToError as = (values as, none) := by
  induction as with
  | nil => rfl
  | cons a as ih =>
    cases a with
    | error err => exact absurd (h _ List.mem_cons_self) Bool.false_ne_true
    | ok a =>
      simp only [upToError]
      rw [ih fun b hb => h b (List.mem_cons_of_mem _ hb)]
      rfl

theorem upToError_of_error {as rest : List (Except ε α)} {err : ε}
    (h : ∀ a ∈ as, a.toBool = true) :
    upToError (as ++ .error err :: rest) = (values as, some err) := by
  rw [upToError_append, upToError_of_ok h]
  simp only [upToError, List.append_nil]

/-- Either nothing fails, or there is a first failure. -/
theorem attempts_cases (as : List (Except ε α)) : (∀ a ∈ as, a.toBool = true) ∨
    ∃ pre err rest, as = pre ++ .error err :: rest ∧ ∀ a ∈ pre, a.toBool = true := by
  induction as with
  | nil => exact .inl nofun
  | cons a as ih =>
    cases a with
    | error err => exact .inr ⟨[], err, as, rfl, nofun⟩
    | ok a =>
      have hcons {as : List (Except ε α)} (h : ∀ b ∈ as, b.toBool = true) :
          ∀ b ∈ .ok a :: as, b.toBool = true := by
        intro b hb
        rcases List.mem_cons.mp hb with rfl | hb
        · rfl
        · exact h b hb
      rcases ih with h | ⟨pre, err, rest, rfl, h⟩
      · exact .inl (hcons h)
      · exact .inr ⟨.ok a :: pre, err, rest, rfl, hcons h⟩

end Attempts

/-! ### Values and their validation -/

/-- What `json.loads` returns; a float is kept as its literal. -/
inductive JsonValue where
  | null
  | bool (b : Bool)
  | int (n : ℤ)
  | float (literal : String)
  | str (s : String)
  | list (items : List JsonValue)
  | dict (fields : List (String × JsonValue))

/-- `json`, and what pydantic and `dt_util` make of a value of a basic type. -/
structure Library where
  loads : String → Except PyError JsonValue
  /-- pydantic's `int`, `str` and `bool`, none for a value that is refused. -/
  asInt : JsonValue → Option ℤ
  asStr : JsonValue → Option String
  asBool : JsonValue → Option Bool
  /-- `as_local(utc_from_timestamp(v / 1000))` of a number. -/
  asLocal : JsonValue → Except PyError LocalTime

/-- `EpochMs.validate`. -/
def EpochMs.validate (lib : Library) : JsonValue → Except PyError LocalTime
  | .null | .str _ | .list _ | .dict _ => .error .typeError
  | v => lib.asLocal v

/-- `Event(v)` for a `v` in `EVENTS`. -/
def eventOf (v : ℤ) : Except PyError Event :=
  if h : (EVENTS.lookup v).isSome then .ok ⟨v, h⟩ else .error .valueError

/-- `Event.validate`; a boolean is an integer too. -/
def Event.validate : JsonValue → Except PyError Event
  | .int v => eventOf v
  | .bool b => eventOf (if b then 1 else 0)
  | _ => .error .typeError

/-- What pydantic does with a validator's outcome: it collects a `ValueError` and lets any other
exception pass. -/
def collected {α : Type} : Except PyError α → Except PyError (Option α)
  | .ok a => .ok (some a)
  | .error err => if err.isValueError then .ok none else .error err

section Fields
variable (fields : List (String × JsonValue)) {α : Type}

/-- A field that must be there. -/
def required (key : String) (validate : JsonValue → Except PyError (Option α)) :
    Except PyError (Option α) :=
  match fields.lookup key with
  | some v => validate v
  | none => .ok none

/-- A field that may be missing or null. -/
def optional (key : String) (validate : JsonValue → Option α) : Option (Option α) :=
  match fields.lookup key with
  | none | some .null => some none
  | some v => (validate v).map some

end Fields

/-- `WebhookEvent.model_validate`: the fields in their order, and an error if one is refused. -/
def modelValidate (lib : Library) : JsonValue → Except PyError WebhookEvent
  | .dict fields => do
    let id ← required fields "lockId" fun v => .ok (lib.asInt v)
    let mac ← required fields "lockMac" fun v => .ok (lib.asStr v)
    let batteryLevel := optional fields "electricQuantity" lib.asInt
    let serverTs ← required fields "serverDate" fun v => collected (EpochMs.validate lib v)
    let lockTs ← required fields "lockDate" fun v => collected (EpochMs.validate lib v)
    let event ← required fields "recordType" fun v => collected (Event.validate v)
    let user := optional fields "username" lib.asStr
    let success ← required fields "success" fun v => .ok (lib.asBool v)
    match id, mac, batteryLevel, serverTs, lockTs, event, user, success with
    | some id, some mac, some batteryLevel, some serverTs, some lockTs, some event, some user,
        some success => .ok { id, mac, batteryLevel, serverTs, lockTs, event, user, success }
    | _, _, _, _, _, _, _, _ => .error .validationError
  | _ => .error .validationError

/-! ### `handle_webhook` -/

/-- The form fields of a post. -/
structure Post where
  fields : List (String × String)
  deriving DecidableEq, Repr

/-- `data.get(key)`. -/
def Post.get (post : Post) (key : String) : Option String := post.fields.lookup key

/-- `data.getall(key, [])`. -/
def Post.getall (post : Post) (key : String) : List String :=
  (post.fields.filter fun f => f.1 == key).map Prod.snd

/-- The lock's id, if the post has one. -/
def Post.lockId (post : Post) : Except PyError (Option ℤ) :=
  match post.get "lockId" with
  | none => .ok none
  | some raw => if raw = "" then .ok none else (intDec raw.toList).map some

/-- What a `for` loop over the value goes through. -/
def iterate : JsonValue → Except PyError (List JsonValue)
  | .list items => .ok items
  | .dict fields => .ok (fields.map fun f => .str f.1)
  | .str s => .ok (s.toList.map fun c => .str (String.singleton c))
  | _ => .error .typeError

/-- The inner loop: the events dispatched, and what it has raised. -/
def dispatchRecords (lib : Library) : List JsonValue → List WebhookEvent × Option PyError
  | [] => ([], none)
  | record :: records =>
    match modelValidate lib record with
    | .error err => ([], some err)
    | .ok event =>
      let (events, err) := dispatchRecords lib records
      (event :: events, err)

/-- The outer loop. -/
def dispatchFields (lib : Library) : List String → List WebhookEvent × Option PyError
  | [] => ([], none)
  | raw :: raws =>
    match lib.loads raw >>= iterate with
    | .error err => ([], some err)
    | .ok records =>
      match dispatchRecords lib records with
      | (events, some err) => (events, some err)
      | (events, none) =>
        let (more, err) := dispatchFields lib raws
        (events ++ more, err)

/-- What `handle_webhook` does: the events it dispatches, what it raises, and whether it calls
`async_resolve_setup_issue`, which confirms the entry. -/
structure Handled where
  dispatched : List WebhookEvent
  raised : Option PyError
  resolved : Bool
  deriving DecidableEq, Repr

/-- `except ValueError: return`. -/
def Handled.excepting (events : List WebhookEvent) (err : PyError) : Handled :=
  ⟨events, if err.isValueError then none else some err, false⟩

/-- `handle_webhook`, for an entry that has `CONF_WEBHOOK_STATUS` or not. -/
def handleWebhook (lib : Library) (status : Bool) (post : Post) : Handled :=
  if post.fields = [] then ⟨[], none, false⟩
  else
    match post.lockId with
    | .error err => .excepting [] err
    | .ok _ =>
      match dispatchFields lib (post.getall "records") with
      | (events, some err) => .excepting events err
      | (events, none) => ⟨events, none, !events.isEmpty && !status⟩

/-! ### The two loops as one walk -/

/-- What the records of a field come to, each on its own. -/
def fieldAttempts (lib : Library) (raw : String) : List (Except PyError WebhookEvent) :=
  match lib.loads raw >>= iterate with
  | .error err => [.error err]
  | .ok records => records.map (modelValidate lib)

/-- What a post comes to: its `lockId`, then the records of its fields. -/
def attempts (lib : Library) (post : Post) : List (Except PyError WebhookEvent) :=
  match post.lockId with
  | .error err => .error err :: (post.getall "records").flatMap (fieldAttempts lib)
  | .ok _ => (post.getall "records").flatMap (fieldAttempts lib)

variable (lib : Library)

theorem dispatchRecords_eq (records : List JsonValue) :
    dispatchRecords lib records = upToError (records.map (modelValidate lib)) := by
  induction records with
  | nil => rfl
  | cons record records ih =>
    rw [dispatchRecords, List.map_cons]
    cases modelValidate lib record with
    | error err => rfl
    | ok event => rw [ih]; rfl

theorem dispatchFields_eq (raws : List String) :
    dispatchFields lib raws = upToError (raws.flatMap (fieldAttempts lib)) := by
  induction raws with
  | nil => rfl
  | cons raw raws ih =>
    rw [dispatchFields, List.flatMap_cons, fieldAttempts, upToError_append]
    cases lib.loads raw >>= iterate with
    | error err => rfl
    | ok records =>
      dsimp only
      rw [dispatchRecords_eq, ih]
      rcases upToError (records.map (modelValidate lib)) with ⟨events, _ | err⟩
      · rfl
      · rfl

/-- How a walk is wrapped up. -/
def wrapUp (status : Bool) : List WebhookEvent × Option PyError → Handled
  | (events, some err) => .excepting events err
  | (events, none) => ⟨events, none, !events.isEmpty && !status⟩

theorem handleWebhook_eq (status : Bool) (post : Post) :
    handleWebhook lib status post = wrapUp status (upToError (attempts lib post)) := by
  unfold handleWebhook attempts
  by_cases h : post.fields = []
  · have hget : post.getall "records" = [] := by rw [Post.getall, h]; rfl
    have hid : post.lockId = .ok none := by rw [Post.lockId, Post.get, h]; rfl
    rw [if_pos h, hid, hget]
    rfl
  · rw [if_neg h]
    cases post.lockId with
    | error err => rfl
    | ok lockId =>
      dsimp only
      rw [dispatchFields_eq]
      rcases upToError ((post.getall "records").flatMap (fieldAttempts lib)) with ⟨events, _ | err⟩
      · rfl
      · rfl

/-! ### What a bad record costs -/

/-- The records, across all fields that are JSON lists, that are accepted on their own. -/
def wellFormed (post : Post) : List WebhookEvent :=
  (post.getall "records").flatMap fun raw =>
    match lib.loads raw with
    | .ok (.list items) => items.filterMap fun record => (modelValidate lib record).toOption
    | _ => []

/-- One bad record costs one record: nothing is raised, what is dispatched are the records accepted on
their own, and if there are any, the entry is confirmed behind the post. -/
structure CostsOne (status : Bool) (post : Post) : Prop where
  raised : (handleWebhook lib status post).raised = none
  dispatched : (handleWebhook lib status post).dispatched = wellFormed lib post
  confirmed : (handleWebhook lib status post).dispatched ≠ [] →
    status = true ∨ (handleWebhook lib status post).resolved = true

/-- If something fails: the first failure is a `ValueError`, no accepted record comes behind it, and
none comes before it unless the entry is confirmed already. -/
def FirstFailureHarmless (status : Bool) (as : List (Except PyError WebhookEvent)) : Prop :=
  ∀ pre err rest, as = pre ++ .error err :: rest → (∀ a ∈ pre, a.toBool = true) →
    err.isValueError = true ∧ (∀ a ∈ rest, a.toBool = false) ∧ (pre = [] ∨ status = true)

/-- No string is a record. -/
theorem values_map_str {β : Type} (f : β → String) (bs : List β) :
    values ((bs.map fun b => JsonValue.str (f b)).map (modelValidate lib)) = [] := by
  induction bs with
  | nil => rfl
  | cons b bs ih => exact ih

theorem values_fieldAttempts (raw : String) : values (fieldAttempts lib raw) =
    match lib.loads raw with
    | .ok (.list items) => items.filterMap fun record => (modelValidate lib record).toOption
    | _ => [] := by
  unfold fieldAttempts
  cases lib.loads raw with
  | error err => rfl
  | ok v =>
    cases v with
    | list items =>
      change values (items.map (modelValidate lib)) = _
      rw [values, List.filterMap_map]
      rfl
    | dict fields => exact values_map_str lib Prod.fst fields
    | str s => exact values_map_str lib String.singleton s.toList
    | null => rfl
    | bool b => rfl
    | int n => rfl
    | float literal => rfl

theorem values_attempts (post : Post) : values (attempts lib post) = wellFormed lib post := by
  have hfields : values ((post.getall "records").flatMap (fieldAttempts lib)) =
      wellFormed lib post := by
    rw [values_flatMap, wellFormed]
    congr 1
    funext raw
    exact values_fieldAttempts lib raw
  unfold attempts
  cases post.lockId with
  | error err => exact hfields
  | ok lockId => exact hfields

theorem values_eq_nil_of_ok {as : List (Except PyError WebhookEvent)}
    (h : ∀ a ∈ as, a.toBool = true) : values as = [] ↔ as = [] := by
  constructor
  · intro hv
    cases as with
    | nil => rfl
    | cons a as =>
      have h1 := h a List.mem_cons_self
      have h2 := values_eq_nil_iff.mp hv a List.mem_cons_self
      exact absurd (h1.symm.trans h2) (by decide)
  · intro ha
    rw [ha]
    rfl

theorem handleWebhook_of_ok (status : Bool) {post : Post}
    (h : ∀ a ∈ attempts lib post, a.toBool = true) : handleWebhook lib status post =
      ⟨wellFormed lib post, none, !(wellFormed lib post).isEmpty && !status⟩ := by
  rw [handleWebhook_eq, upToError_of_ok h, values_attempts]
  rfl

theorem handleWebhook_of_failure (status : Bool) {post : Post}
    {pre rest : List (Except PyError WebhookEvent)} {err : PyError}
    (ha : attempts lib post = pre ++ .error err :: rest) (hpre : ∀ a ∈ pre, a.toBool = true) :
    handleWebhook lib status post = .excepting (values pre) err := by
  rw [handleWebhook_eq, ha, upToError_of_error hpre]
  rfl

/-- A walk that fails somewhere. -/
theorem costsOne_of_failure_iff {status : Bool} {post : Post}
    {pre rest : List (Except PyError WebhookEvent)} {err : PyError}
    (ha : attempts lib post = pre ++ .error err :: rest) (hpre : ∀ a ∈ pre, a.toBool = true) :
    CostsOne lib status post ↔
      err.isValueError = true ∧ (∀ a ∈ rest, a.toBool = false) ∧ (pre = [] ∨ status = true) := by
  have hrun := handleWebhook_of_failure lib status ha hpre
  have hwell : wellFormed lib post = values pre ++ values rest := by
    rw [← values_attempts, ha, values_append]
    rfl
  constructor
  · intro h
    have hraised := h.raised
    have hdisp := h.dispatched
    have hconf := h.confirmed
    rw [hrun] at hraised hdisp hconf
    rw [hwell] at hdisp
    refine ⟨?_, ?_, ?_⟩
    · by_contra hv
      rw [Handled.excepting, if_neg hv] at hraised
      cases hraised
    · exact values_eq_nil_iff.mp (List.self_eq_append_right.mp hdisp)
    · by_cases hp : pre = []
      · exact .inl hp
      · refine .inr ((hconf fun hv => hp ((values_eq_nil_of_ok hpre).mp hv)).resolve_right ?_)
        exact Bool.false_ne_true
  · rintro ⟨hv, hrest, hst⟩
    constructor
    · rw [hrun, Handled.excepting, if_pos hv]
    · rw [hrun, hwell, values_eq_nil_iff.mpr hrest, List.append_nil]
      rfl
    · intro hne
      rw [hrun] at hne
      refine .inl (hst.resolve_left fun hp => hne ?_)
      rw [hp]
      rfl

/-- A walk on which nothing fails. -/
theorem costsOne_of_ok {status : Bool} {post : Post}
    (h : ∀ a ∈ attempts lib post, a.toBool = true) : CostsOne lib status post := by
  have hrun := handleWebhook_of_ok lib status h
  refine ⟨by rw [hrun], by rw [hrun], fun hne => ?_⟩
  rw [hrun] at hne ⊢
  cases status with
  | true => exact .inl rfl
  | false =>
    refine .inr ?_
    have hempty : (wellFormed lib post).isEmpty = false := by
      rw [List.isEmpty_eq_false_iff]
      exact hne
    rw [hempty]
    rfl

/-- **When one bad record costs one record.** For every post: exactly if nothing in it fails, or the
first failure is a `ValueError` with no accepted record behind it, and none in front of it unless the
entry is confirmed already. -/
theorem handleWebhook_costsOne_iff (status : Bool) (post : Post) :
    CostsOne lib status post ↔ FirstFailureHarmless status (attempts lib post) := by
  constructor
  · intro h pre err rest ha hpre
    exact (costsOne_of_failure_iff lib ha hpre).mp h
  · intro h
    rcases attempts_cases (attempts lib post) with hok | ⟨pre, err, rest, ha, hpre⟩
    · exact costsOne_of_ok lib hok
    · exact (costsOne_of_failure_iff lib ha hpre).mpr (h pre err rest ha hpre)

/-! ### A field that is no JSON -/

/-- An unlock by passcode. -/
def sampleRecord : JsonValue :=
  .dict [("lockId", .int 7252408), ("lockMac", .str "16:72:4C:CC:01:C4"),
    ("electricQuantity", .int 93), ("serverDate", .int 1680810180029),
    ("lockDate", .int 1680810186000), ("recordType", .int 4), ("username", .str "test"),
    ("success", .int 1)]

/-- A field with this record. -/
def sampleField : String :=
  "[\x7b\"lockId\":7252408,\"lockMac\":\"16:72:4C:CC:01:C4\",\"electricQuantity\":93," ++
    "\"serverDate\":1680810180029,\"lockDate\":1680810186000,\"recordType\":4," ++
    "\"username\":\"test\",\"success\":1\x7d]"

/-- The library on these values; the empty text is no JSON. -/
def sampleLibrary : Library where
  loads raw := if raw = sampleField then .ok (.list [sampleRecord]) else .error .valueError
  asInt
    | .int n => some n
    | _ => none
  asStr
    | .str s => some s
    | _ => none
  asBool
    | .bool b => some b
    | .int n => if n = 1 then some true else if n = 0 then some false else none
    | _ => none
  asLocal
    | .int n => .ok ⟨n * 1000, 0⟩
    | _ => .error .typeError

/-- **An unparsable field costs the record behind it.** -/
theorem unparsable_field_suppresses :
    ¬ ∀ (lib : Library) (status : Bool) (post : Post), CostsOne lib status post := by
  intro h
  have hlen : (handleWebhook sampleLibrary false
      ⟨[("records", ""), ("records", sampleField)]⟩).dispatched.length =
        (wellFormed sampleLibrary ⟨[("records", ""), ("records", sampleField)]⟩).length := by
    rw [(h sampleLibrary false ⟨[("records", ""), ("records", sampleField)]⟩).dispatched]
  revert hlen
  decide +kernel

end TTLockConnect.Webhook.Records
