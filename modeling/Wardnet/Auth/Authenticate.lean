/-
# Authentication

`authenticate` runs before every handler. A peer of the mesh is known by its certificate;
everybody else shows a token, and a daemon also signs the request with the key its token
names.
-/

import Wardnet.Auth.Replay
import Wardnet.Auth.Token

namespace Wardnet.Auth

open Base

structure ServiceIdentity where
  trustDomain : String
  env : String
  scope : String
  service : String
  deriving DecidableEq

structure DaemonCaller where
  tenantId : String
  publicKey : String
  network : Option String
  deriving DecidableEq

structure UserCaller where
  tenantId : String
  userId : String
  network : Option String
  deriving DecidableEq

inductive Caller
  | service (identity : ServiceIdentity)
  | daemon (caller : DaemonCaller)
  | user (caller : UserCaller)
  deriving DecidableEq

structure Rejection where
  status : ℕ
  error : String
  deriving DecidableEq

def unauthorized (error : String) : Rejection := ⟨401, error⟩

def forbidden (error : String) : Rejection := ⟨403, error⟩

/-- A request, with the identity that the mesh listener stamps into it. -/
structure Request where
  method : String
  pathAndQuery : String
  headers : Store String String
  body : List UInt8
  service : Option ServiceIdentity

/-- What `verify_signed_request` checks of a request. -/
def Request.pop (request : Request) (subject : String) (pubKeyBytes : Vector UInt8 32) :
    PopRequest where
  method := request.method
  pathAndQuery := request.pathAndQuery
  headers := request.headers
  body := request.body
  pubKeyBytes := pubKeyBytes
  replaySubject := subject

structure Clock where
  verifyNow : Int
  popNow : Int
  replayNow : Int

variable {crypto : Crypto} {request : Request} {replay replay' : ReplayCache}

variable {pubKeyBytes : Vector UInt8 32} {clock : Clock} {caller : DaemonCaller}

end Wardnet.Auth
