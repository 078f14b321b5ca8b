import SecurityKey.Session.Basic
import SecurityKey.U2f.Client

/-!
# Detecting the protocol

An authenticator that answers the request for its info speaks CTAP2. One that does not, but tells its U2F version, is
used with U2F.
-/

namespace SecurityKey

/-- An authenticator with the newest protocol that it speaks. -/
inductive Authenticator where
  | ctap2 (session : Session)
  | u2f (link : Link)

namespace Authenticator

/-- The link to the authenticator. -/
def link : Authenticator → Link
  | ctap2 session => session.link
  | u2f link => link

/-- Finds out which protocol the authenticator on a selected link speaks. The failure of an authenticator that speaks
none is the one for CTAP2. -/
def detect (config : Config) (entropy : Entropy) (link : Link) : Result Authenticator × Link :=
  match Session.connect config entropy link with
  | (.ok session, link) => (.ok (ctap2 session), link)
  | (.error failure, link) =>
    match U2f.getVersion.on link with
    | (.ok _, link) => (.ok (u2f link), link)
    | (.error _, link) => (.error failure, link)

/-- What a caller wants to speak with an authenticator. -/
inductive Wish where
  | ctap2
  | u2f
  | newest
  deriving DecidableEq

/-- Begins to speak with an authenticator on a selected link. Nothing is sent for U2F. -/
def connect (wish : Wish) (config : Config) (entropy : Entropy) (link : Link) : Result Authenticator × Link :=
  match wish with
  | .ctap2 =>
    let (session, link) := Session.connect config entropy link
    (session.map ctap2, link)
  | .u2f => (.ok (u2f link), link)
  | .newest => detect config entropy link

/-- Selects an authenticator and begins to speak with it. The link is handed back whether that succeeds or fails. -/
def establish (wish : Wish) (config : Config) (entropy : Entropy) (link : Link) : Result Authenticator × Link :=
  match link.select with
  | (.error reason, link) => (.error (.link reason), link)
  | (.ok (), link) => connect wish config entropy link

end Authenticator

end SecurityKey
