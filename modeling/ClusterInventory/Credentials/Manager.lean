import ClusterInventory.Credentials.Files
import ClusterInventory.Signing.Identity

/-! Keeping a signing identity fresh. A manager loads the identity from two files and holds on to
the last one that could be loaded. It looks again some time before that expires, and soon when
there is nothing better to do. -/

namespace ClusterInventory.Credentials

open Signing (CredentialError Identity)

/-- How long before its expiry an identity is due for renewal. -/
def renewBefore : Duration := .ofSeconds 300

/-- How long to wait before files that did not help are looked at again. -/
def retryDelay : Duration := .ofSeconds 120

/-- The time until an identity is due for renewal; none when it already is. -/
def renewalDelay (notAfter now : Instant) : Duration :=
  match notAfter.earlier? renewBefore with
  | some due => ⟨(due.nanosSince now).toNat⟩
  | none => ⟨0⟩

inductive RenewOutcome where
  | disabled
  | renewed (notAfter : Instant) (nextIn : Duration)
  | failed (error : CredentialError) (retryIn : Duration)
  deriving DecidableEq

/-- The time until the next renewal, if there is to be one. -/
def RenewOutcome.next? : RenewOutcome → Option Duration
  | disabled => none
  | renewed _ nextIn => some nextIn
  | failed _ retryIn => some retryIn

structure Manager where
  isEnabled : Bool
  certificatePath : String
  keyPath : String
  /-- The identity of the last load that succeeded. -/
  identity : Option Identity
  /-- The time from the first load to the first renewal. -/
  firstDelay : Option Duration
  deriving DecidableEq

/-- Loads an identity. The certificates are read before the key, and the files may have changed in
between. -/
def loadIdentity (certificatePath keyPath : String) (first second : Files) :
    Except CredentialError Identity := do
  let certificates ← (first.read certificatePath).mapError (.read certificatePath ·.message)
  let key ← (second.read keyPath).mapError (.read keyPath ·.message)
  Identity.ofFiles certificates key

namespace Manager

/-- A manager that never signs. -/
def disabled : Manager :=
  { isEnabled := false, certificatePath := "", keyPath := "", identity := none, firstDelay := none }

/-- The time until the next renewal after an identity has been loaded. Where that is due at once,
the files get time to change. -/
def nextDelay (notAfter now : Instant) : Duration :=
  let delay := renewalDelay notAfter now
  if delay.isZero then retryDelay else delay

/-- Loads the identity anew, from files that may change between the two reads. One that cannot be
loaded leaves the last one in place. -/
def renewBetween (first second : Files) (now : Instant) (m : Manager) : RenewOutcome × Manager :=
  if m.isEnabled then
    match loadIdentity m.certificatePath m.keyPath first second with
    | .ok i => (.renewed i.notAfter (nextDelay i.notAfter now), { m with identity := some i })
    | .error e => (.failed e retryDelay, m)
  else (.disabled, m)

/-- Loads the identity anew. -/
def renew (files : Files) (now : Instant) (m : Manager) : RenewOutcome × Manager :=
  m.renewBetween files files now

/-- A manager can do its work: it is wanted, both paths are given, there is a certificate file, and
the key file can be opened. -/
def canEnable (files : Files) (certificatePath keyPath : String) (wanted : Bool) : Bool :=
  wanted && certificatePath != "" && keyPath != "" && files.hasEntry certificatePath &&
    files.hasEntry keyPath

/-- A manager that can do its work, before its first load. -/
def unloaded (certificatePath keyPath : String) : Manager :=
  { isEnabled := true, certificatePath, keyPath, identity := none, firstDelay := none }

/-- Decides whether to sign at all, and loads the identity for the first time. Whether that
succeeds does not matter for the decision. -/
def setUp (files : Files) (now : Instant) (certificatePath keyPath : String)
    (wanted : Bool) : Manager :=
  if canEnable files certificatePath keyPath wanted then
    let (outcome, m) := (unloaded certificatePath keyPath).renew files now
    { m with firstDelay := outcome.next? }
  else disabled

end Manager

/-- A manager under supervision, and the time to wait before its next renewal. The supervision
ends when there is none. -/
structure Supervision where
  manager : Manager
  wait : Option Duration

namespace Supervision

def start (m : Manager) : Supervision := ⟨m, m.firstDelay⟩

def isOver (s : Supervision) : Bool := s.wait.isNone

/-- The renewal after the wait. -/
def wake (files : Files) (now : Instant) (s : Supervision) : Supervision :=
  let (outcome, m) := s.manager.renew files now
  ⟨m, outcome.next?⟩

end Supervision

end ClusterInventory.Credentials
