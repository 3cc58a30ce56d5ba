import Outscan.Persistence.Lease

/-! Cancelling a scan. -/
namespace Outscan

open Relational Transactional

inductive CancelGuestScanResult where
  | cancelled | alreadyCancelled | invalidRequest | notCancellable | unavailable
deriving DecidableEq, Repr

def cancelledState : AttemptState → Option AttemptState
  | .running => some .cancelled
  | .leased => some .superseded
  | .created => some .cancelled
  | _ => none

def cancelCurrentAttempt (scan : GuestScan) (now : Nat) : Sql Unit := do
  match scan.currentAttemptId with
  | none => pure ()
  | some attemptId =>
    let t ← get
    match t.loadAttempt scan.id attemptId with
    | none => throwing .attemptState
    | some attempt =>
      if !validAttempt attempt then throwing .attemptState
      else
        match cancelledState attempt.attemptState with
        | none => throwing .attemptState
        | some nextState => do
          let _ ← updateGuestScanAttempt .attemptCas scan.id attempt.id
            (fun row => row.attemptState = attempt.attemptState) (closeAttempt nextState now)

def releaseCancelled (guestScanId : String) (now : Nat) : Sql Unit := do
  let released ← releaseGuestAbuseReservation guestScanId now .cancelled
  Tx.ensure (released = true) (.thrown .abuseRelease)

def cancelBody (guestScanId : String) (now : Nat) : Sql CancelGuestScanResult := do
  let t ← get
  match t.guestScans.find? guestScanId with
  | none => pure .notCancellable
  | some scan =>
    if !validScan scan then pure .notCancellable
    else if scan.jobState = .cancelled then do
      releaseCancelled scan.id now
      pure .alreadyCancelled
    else if !scan.jobState.active then pure .notCancellable
    else do
      cancelCurrentAttempt scan now
      let _ ← updateGuestScan .jobCancelCas scan.id (fun row => row.jobState.active = true)
        (endJob .cancelled now)
      releaseCancelled scan.id now
      pure .cancelled

def cancel (guestScanId : String) (clock : ClockReading) (db : Database) :
    CancelGuestScanResult × Database :=
  if !validId guestScanId then (.invalidRequest, db)
  else
    match nowValue clock with
    | none => (.unavailable, db)
    | some now => transaction .unavailable (cancelBody guestScanId now) db

end Outscan
