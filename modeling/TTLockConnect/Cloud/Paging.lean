import TTLockConnect.Cloud.Client
import Mathlib.Data.List.TakeDrop

/-! # Enumerations, page by page

The cloud hands out what it holds in pages. Each of the methods that enumerate asks for one page, the
first, of a size of its own. The records are those that the method validates. -/

namespace TTLockConnect.Cloud.Paging

open TTLockConnect.Models TTLockConnect.Cloud.Client

/-! ### Pages -/

section Page
variable {α : Type} (items : List α)

/-- Page `pageNo`, from 1, of `items`. -/
def page (pageNo pageSize : ℕ) : List α := (items.drop ((pageNo - 1) * pageSize)).take pageSize

theorem page_one (pageSize : ℕ) : page items 1 pageSize = items.take pageSize := by
  rw [page, Nat.sub_self, Nat.zero_mul, List.drop_zero]

/-- The first page is everything exactly if everything fits on it. -/
theorem page_one_eq_iff (pageSize : ℕ) : page items 1 pageSize = items ↔ items.length ≤ pageSize := by
  rw [page_one, List.take_eq_self_iff]

end Page

/-! ### The requests -/

/-- A request that enumerates. -/
structure Listing where
  path : String
  kwargs : Kwargs
  deriving DecidableEq, Repr

namespace Listing

/-- A parameter that is a number. -/
def param (l : Listing) (key : String) : ℕ :=
  match l.kwargs.lookup key with
  | some (.int n) => n.toNat
  | _ => 0

/-- The request of `get_locks`. -/
def locks : Listing := ⟨"lock/list", [("pageNo", .int 1), ("pageSize", .int 1000)]⟩

/-- The request of `get_gateways`. -/
def gateways : Listing := ⟨"gateway/list", [("pageNo", .int 1), ("pageSize", .int 1000)]⟩

variable (lockId : ℤ)

/-- The request of `list_passcodes`. -/
def passcodes : Listing :=
  ⟨"lock/listKeyboardPwd", [("lockId", .int lockId), ("pageNo", .int 1), ("pageSize", .int 100)]⟩

/-- The first page of 200, ordered. -/
def first200 (path : String) : Listing :=
  ⟨path, [("lockId", .int lockId), ("pageNo", .int 1), ("pageSize", .int 200), ("orderBy", .int 1)]⟩

/-- The request of `list_ekeys`. -/
def ekeys : Listing := first200 lockId "lock/listKey"

/-- The request of `list_cards`. -/
def cards : Listing := first200 lockId "identityCard/list"

/-- The request of `list_fingerprints`. -/
def fingerprints : Listing := first200 lockId "fingerprint/list"

end Listing

/-- The methods of the client send these requests, one each. -/
theorem client_reads (client : ℕ) (lockId : ℤ) :
    getLocks client = read client Listing.locks.path Listing.locks.kwargs ∧
    getGateways client = read client Listing.gateways.path Listing.gateways.kwargs ∧
    listPasscodes client lockId =
      read client (Listing.passcodes lockId).path (Listing.passcodes lockId).kwargs ∧
    listEkeys client lockId =
      read client (Listing.ekeys lockId).path (Listing.ekeys lockId).kwargs ∧
    listCards client lockId =
      read client (Listing.cards lockId).path (Listing.cards lockId).kwargs ∧
    listFingerprints client lockId =
      read client (Listing.fingerprints lockId).path (Listing.fingerprints lockId).kwargs :=
  ⟨rfl, rfl, rfl, rfl, rfl, rfl⟩

/-! ### The server -/

/-- What the cloud holds: for the account, and for a lock. -/
structure Server (L G C F : Type) where
  locks : List L
  gateways : List G
  passcodes : ℤ → List Passcode
  ekeys : ℤ → List Ekey
  cards : ℤ → List C
  fingerprints : ℤ → List F

/-- What a method that enumerates returns: the page that it asks for. -/
def enumerate {α : Type} (l : Listing) (items : List α) : List α :=
  page items (l.param "pageNo") (l.param "pageSize")

namespace Server
variable {L G C F : Type} (srv : Server L G C F) (lockId : ℤ)

/-- `get_locks`. -/
def getLocks : List L := enumerate Listing.locks srv.locks

/-- `get_gateways`. -/
def getGateways : List G := enumerate Listing.gateways srv.gateways

/-- `list_passcodes`. -/
def listPasscodes : List Passcode := enumerate (Listing.passcodes lockId) (srv.passcodes lockId)

/-- `list_ekeys`. -/
def listEkeys : List Ekey := enumerate (Listing.ekeys lockId) (srv.ekeys lockId)

/-- `list_cards`. -/
def listCards : List C := enumerate (Listing.cards lockId) (srv.cards lockId)

/-- `list_fingerprints`. -/
def listFingerprints : List F :=
  enumerate (Listing.fingerprints lockId) (srv.fingerprints lockId)

end Server

/-- An enumeration of the first page is complete exactly if it fits. -/
theorem enumerate_eq_iff {α : Type} (l : Listing) (items : List α) (h : l.param "pageNo" = 1) :
    enumerate l items = items ↔ items.length ≤ l.param "pageSize" := by
  rw [enumerate, h, page_one_eq_iff]

end TTLockConnect.Cloud.Paging
