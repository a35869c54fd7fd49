import Mathlib.Logic.Basic

/-!
# Principals and the gates of the route handlers

A request that passes the authentication boundary carries one principal.  The handlers ask three questions of it:
is it an administrator, is it the deploy agent, and may it act for a host.
-/

namespace LamaSync

/-- Who a request speaks for. -/
inductive AuthPrincipal where
  | master
  | admin (keyId : String)
  | device (keyId hostId : String)
  | deploy (keyId : String)
  | mobile (hostId : String)
  | webSession (sessionId hostId : String) (admin : Bool) (csrfToken : String) (expiresAt : Int)
      (displayName clientType : String)
  deriving DecidableEq

def requireAdmin : Option AuthPrincipal → Option AuthPrincipal
  | some .master => some .master
  | some (.admin keyId) => some (.admin keyId)
  | some (.webSession sid h true csrf exp name client) => some (.webSession sid h true csrf exp name client)
  | _ => none

def requireDeployAgent : Option AuthPrincipal → Option AuthPrincipal
  | some (.deploy keyId) => some (.deploy keyId)
  | _ => none

def deviceMayAccessHost (principal : Option AuthPrincipal) (hostId : Option String) : Bool :=
  match principal with
  | none => false
  | some .master | some (.admin _) => true
  | some (.webSession _ _ admin _ _ _ _) => admin
  | some (.device _ bound) => hostId == some bound
  | some (.deploy _) | some (.mobile _) => false

def deviceHostId : Option AuthPrincipal → Option String
  | some (.device _ hostId) => some hostId
  | _ => none

@[simp] theorem requireAdmin_device (keyId hostId : String) : requireAdmin (some (.device keyId hostId)) = none := rfl

end LamaSync
