import Outscan.Library.Json.Objects
import Outscan.Target.Hostname

/-! Pages of counters, as the management interface serves them. Every check that fails
is `INVALID_COUNTER_RESPONSE`, written `none`. -/
namespace Outscan

open Json

inductive YandexMetrikaPermission where
  | own | edit | analyst | view | viewAccessFilter | analystAccessFilter
deriving DecidableEq, Repr

structure YandexMetrikaCounter where
  id : Nat
  name : Text
  ownerLogin : Text
  permission : YandexMetrikaPermission
  status : Text
  source : Text
  primarySite : Option Text
  mirrors : List Text
deriving DecidableEq, Repr

structure YandexMetrikaCounterPage where
  counters : List YandexMetrikaCounter
  rows : Nat
  receivedCount : Nat
  rejectedCount : Nat
deriving DecidableEq, Repr

def maxCounters : Nat := 100000
def maxMirrorsPerCounter : Nat := 1000

/-- A code unit as a character; no surrogate is a character that a text is searched for. -/
def unitChar (u : UInt16) : Char := Char.ofNat u.toNat

/-- `trim` on code units. -/
def trimText (text : Text) : Text :=
  ((text.dropWhile fun u => isJsSpace (unitChar u)).reverse.dropWhile fun u =>
    isJsSpace (unitChar u)).reverse

def member? (members : List (Text × Json.Value)) (name : String) : Option Json.Value :=
  members.reverse.lookup (units name)

/-- `Number.isSafeInteger`, and the number. -/
def safeInteger? : Option Json.Value → Option Int
  | some (.number value) => value.whole?.filter fun n => decide (n.natAbs ≤ maxSafeInteger)
  | _ => none

def stringValue (value : Option Json.Value) (maximum : Nat) (allowEmpty : Bool) : Option Text :=
  match value with
  | some (.string text) =>
    if text.length > maximum then none
    else if !allowEmpty && (trimText text).isEmpty then none
    else some (trimText text)
  | _ => none

def siteValue : Option Json.Value → Option (Option Text)
  | none | some .null => some none
  | some (.object members) => (stringValue (member? members "site") 2048 false).map some
  | some _ => none

def mirrorSites : List Json.Value → Option (List Text)
  | [] => some []
  | .null :: rest => mirrorSites rest
  | .object members :: rest => do
    let site ← stringValue (member? members "site") 2048 false
    let sites ← mirrorSites rest
    some (site :: sites)
  | _ :: _ => none

def mirrorValues : Option Json.Value → Option (List Text)
  | none | some .null => some []
  | some (.array items) => if items.length > maxMirrorsPerCounter then none else mirrorSites items
  | some _ => none

def permission? : Option Json.Value → Option YandexMetrikaPermission
  | some (.string text) =>
    if text = units "own" then some .own
    else if text = units "edit" then some .edit
    else if text = units "analyst" then some .analyst
    else if text = units "view" then some .view
    else if text = units "view_access_filter" then some .viewAccessFilter
    else if text = units "analyst_access_filter" then some .analystAccessFilter
    else none
  | _ => none

def parseCounter : Json.Value → Option YandexMetrikaCounter
  | .object members => do
    let id ← safeInteger? (member? members "id")
    guard (0 < id)
    let permission ← permission? (member? members "permission")
    let primarySite ← siteValue (member? members "site2")
    let name ← stringValue (member? members "name") 255 true
    let ownerLogin ← stringValue (member? members "owner_login") 255 false
    let status ← stringValue (member? members "status") 64 false
    let source ← stringValue (member? members "source") 64 true
    let mirrors ← mirrorValues (member? members "mirrors2")
    some { id := id.toNat, name, ownerLogin, permission, status, source, primarySite, mirrors }
  | _ => none

/-- The counters of a page, and how many entries were rejected. -/
def parseEntries : List Json.Value → List YandexMetrikaCounter × Nat
  | [] => ([], 0)
  | entry :: rest =>
    let others := parseEntries rest
    match parseCounter entry with
    | some counter => (counter :: others.1, others.2)
    | none => (others.1, others.2 + 1)

def pageEntries : Json.Value → Option (List Json.Value)
  | .object members =>
    match member? members "counters" with
    | some (.array items) => some items
    | _ => none
  | _ => none

def pageRows : Json.Value → Option Int
  | .object members => safeInteger? (member? members "rows")
  | _ => none

def parseYandexMetrikaCounterPage (input : Json.Value) (perPage : Nat) :
    Option YandexMetrikaCounterPage := do
  guard (1 ≤ perPage ∧ perPage ≤ 10000)
  let entries ← pageEntries input
  guard (entries.length ≤ perPage)
  let rows ← pageRows input
  guard (0 ≤ rows ∧ rows ≤ maxCounters)
  let parsed := parseEntries entries
  some
    { counters := parsed.1, rows := rows.toNat, receivedCount := entries.length
      rejectedCount := parsed.2 }

theorem parseEntries_eq (entries : List Json.Value) :
    (parseEntries entries).1 = entries.filterMap parseCounter ∧
      (parseEntries entries).1.length + (parseEntries entries).2 = entries.length := by
  induction entries with
  | nil => exact ⟨rfl, rfl⟩
  | cons entry rest ih =>
    rw [parseEntries, List.filterMap_cons]
    cases parseCounter entry with
    | none => exact ⟨ih.1, by simp only [List.length_cons]; omega⟩
    | some counter => exact ⟨congrArg _ ih.1, by simp only [List.length_cons]; omega⟩

theorem parseYandexMetrikaCounterPage_eq_some {input : Json.Value} {perPage : Nat}
    {page : YandexMetrikaCounterPage} (h : parseYandexMetrikaCounterPage input perPage = some page) :
    ∃ entries, pageEntries input = some entries ∧ pageRows input = some (page.rows : Int) ∧
      page.counters = entries.filterMap parseCounter ∧ page.receivedCount = entries.length ∧
      page.counters.length + page.rejectedCount = entries.length ∧ entries.length ≤ perPage := by
  simp only [parseYandexMetrikaCounterPage, Option.bind_eq_bind, Option.bind_eq_some_iff,
    Option.guard_eq_some', exists_const] at h
  obtain ⟨-, entries, hentries, hlength, rows, hrows, hbounds, h⟩ := h
  cases h
  have hparsed := parseEntries_eq entries
  exact ⟨entries, hentries, by rw [hrows, Int.toNat_of_nonneg hbounds.1], hparsed.1, rfl, hparsed.2,
    hlength⟩

end Outscan
