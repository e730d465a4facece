import Notifications.Web.Jwt

/-!
# The authenticator

`Authenticator.ServeHTTP` lets a request through when its bearer token parses
and has one of the scopes.  The callback returns the bytes of the UAA's public
key for every token.  For a method of the RSA family they are a PEM block; for
one of the HMAC family they are the secret, and everybody knows them.
-/

set_option autoImplicit false

namespace Notifications.Web

open Notifications.Lib Notifications.Web.Jwt

structure Authenticator where
  scopes : List String
  uaaPublicKey : String
  deriving DecidableEq, Repr

/-- How `ServeHTTP` ends: with true, with false and a response, or with a
failed type assertion. -/
inductive Served where
  | passed (token : Token)
  | refused (code : Nat) (body : String)
  | panicked

namespace Authenticator

/-- The loop of `contains`; `none` is a panic. -/
def containsElement (key : String) : List Jwt.Json → Option Bool
  | [] => some false
  | .string element :: rest =>
      if element = key then some true else containsElement key rest
  | _ :: _ => none

def contains (elements : Jwt.Json) (key : String) : Option Bool :=
  match elements with
  | .array elements => containsElement key elements
  | _ => none

def containsAny (tokenScopes : Jwt.Json) : List String → Option Bool
  | [] => some false
  | wareScope :: rest =>
      match contains tokenScopes wareScope with
      | some false => containsAny tokenScopes rest
      | decided => decided

def error (code : Nat) (message : String) : Served :=
  .refused code ("\x7b\"errors\":[\"" ++ message ++ "\"]\x7d")

/-- The token after `Bearer`, in any capitalization. -/
def getToken (authorization : String) : String :=
  match split authorization ' ' with
  -- no letter outside ASCII has its lower case in `bearer`
  | [scheme, rawToken] => if toLower scheme = "bearer" then rawToken else ""
  | _ => ""

variable (ware : Authenticator) (library : Library)

def containsATokenScope (claims : Fields) : Option Bool :=
  match claims.lookup "scope" with
  | some tokenScopes => containsAny tokenScopes ware.scopes
  | none => some false

def keyFunc : Keyfunc := fun _ => .ok (.bytes ware.uaaPublicKey)

/-- The request has this `Authorization` header, or none if it is empty. -/
def serveHTTP (now : Int) (authorization : String) : Served :=
  let rawToken := getToken authorization
  if rawToken = "" then
    error 401 "Authorization header is invalid: missing"
  else
    match parse library now rawToken (some ware.keyFunc) with
    | .error failure =>
        if Lib.contains failure.error "expired" then
          error 401 "Authorization header is invalid: expired"
        else
          error 401 "Authorization header is invalid: corrupt"
    | .ok token =>
        match ware.containsATokenScope token.claims with
        | none => .panicked
        | some false =>
            error 403 "You are not authorized to perform the requested action"
        | some true => .passed token

/-! ## Which requests pass -/

variable {ware library} {now : Int} {authorization : String}

/-- A bearer token that can be read, is current and has one of the scopes.
Its signature is not looked at. -/
structure Presented (ware : Authenticator) (library : Library) (now : Int)
    (authorization : String)
    (segments : Segments library (getToken authorization)) : Prop where
  current : expired now segments.claims = false
  started : early now segments.claims = false
  inScope : ware.containsATokenScope segments.claims = some true

theorem serveHTTP_passed_iff {token : Token} :
    ware.serveHTTP library now authorization = .passed token ↔
      ∃ segments : Segments library (getToken authorization),
        Presented ware library now authorization segments ∧
        segments.method.verify library segments.signingString
          segments.signature (.bytes ware.uaaPublicKey) = .ok () ∧
        token = segments.token := by
  constructor
  · intro served
    simp only [serveHTTP] at served
    split at served
    · cases served
    · split at served
      · split at served <;> cases served
      · rename_i parsed
        obtain ⟨segments, key, given, current, started, verified, rfl⟩ :=
          parse_ok_iff.mp parsed
        cases given
        split at served
        · cases served
        · cases served
        · rename_i inScope
          cases served
          exact ⟨segments, ⟨current, started, inScope⟩, verified, rfl⟩
  · rintro ⟨segments, presented, verified, rfl⟩
    have parsed : parse library now (getToken authorization)
        (some ware.keyFunc) = .ok segments.token :=
      parse_ok_iff.mpr ⟨segments, _, rfl, presented.current,
        presented.started, verified, rfl⟩
    have inScope : ware.containsATokenScope segments.token.claims =
        some true := presented.inScope
    rw [serveHTTP, if_neg segments.tokenString_ne_empty, parsed]
    dsimp only
    rw [inScope]

/-! ## Which signatures pass -/

theorem containsElement_true {key : String} {elements : List Jwt.Json}
    (found : containsElement key elements = some true) :
    .string key ∈ elements := by
  induction elements with
  | nil => cases found
  | cons first rest ih =>
      cases first with
      | string element =>
          simp only [containsElement] at found
          split at found
          · rename_i same
            subst same
            exact List.mem_cons_self
          · exact List.mem_cons_of_mem _ (ih found)
      | _ => cases found

theorem containsAny_true {tokenScopes : Jwt.Json} {scopes : List String}
    (found : containsAny tokenScopes scopes = some true) :
    ∃ elements, tokenScopes = .array elements ∧
      ∃ scope ∈ scopes, .string scope ∈ elements := by
  induction scopes with
  | nil => cases found
  | cons first rest ih =>
      simp only [containsAny] at found
      split at found
      · obtain ⟨elements, array, scope, member, granted⟩ := ih found
        exact ⟨elements, array, scope, List.mem_cons_of_mem first member,
          granted⟩
      · cases tokenScopes with
        | array elements =>
            exact ⟨elements, rfl, first, List.mem_cons_self,
              containsElement_true found⟩
        | _ => cases found

/-- The scope claim has one of the authenticator's scopes. -/
def HasScope (ware : Authenticator) (claims : Fields) : Prop :=
  ∃ elements, claims.lookup "scope" = some (.array elements) ∧
    ∃ scope ∈ ware.scopes, .string scope ∈ elements

theorem hasScope_of_contains {claims : Fields}
    (found : ware.containsATokenScope claims = some true) :
    ware.HasScope claims := by
  unfold containsATokenScope at found
  split at found
  · rename_i tokenScopes given
    obtain ⟨elements, rfl, scopes⟩ := containsAny_true found
    exact ⟨elements, given, scopes⟩
  · cases found

/-- The token is verified by the RSA method it names, with the public key of
the UAA, and has one of the scopes. -/
def SignedByUAA (ware : Authenticator) (library : Library)
    (authorization : String) : Prop :=
  ∃ (segments : Segments library (getToken authorization)) (hash : Hash)
      (sig : List UInt8) (rsaKey : RSAPublicKey),
    segments.method = .rsa hash ∧
    decodeSegment segments.signature = .ok sig ∧
    parseRSAPublicKeyFromPEM library ware.uaaPublicKey = .ok rsaKey ∧
    library.verifyPKCS1v15 rsaKey hash
      (library.sum hash segments.signingString) sig = .ok () ∧
    ware.HasScope segments.claims

/-- A current token in scope whose header names an HMAC method, and whose
signature is the HMAC with the text of the public key as the secret. -/
def Forged (ware : Authenticator) (library : Library) (now : Int)
    (authorization : String) : Prop :=
  ∃ (segments : Segments library (getToken authorization)) (hash : Hash),
    Presented ware library now authorization segments ∧
    segments.method = .hmac hash ∧
    library.available hash = true ∧
    decodeSegment segments.signature =
      .ok (library.hmac hash ware.uaaPublicKey segments.signingString)

theorem passed_of_forged
    (forged : Forged ware library now authorization) :
    ∃ token, ware.serveHTTP library now authorization = .passed token := by
  obtain ⟨segments, hash, presented, method, available, signature⟩ := forged
  refine ⟨segments.token, serveHTTP_passed_iff.mpr
    ⟨segments, presented, ?_, rfl⟩⟩
  rw [method]
  exact (verifyHMAC_ok_iff library).mpr ⟨available, signature⟩

theorem not_signed_of_forged
    (forged : Forged ware library now authorization) :
    ¬ SignedByUAA ware library authorization := by
  obtain ⟨segments, hash, _, hmac, _⟩ := forged
  rintro ⟨other, rsaHash, _, _, rsa, _⟩
  rw [other.unique segments, hmac] at rsa
  cases rsa

theorem only_uaa_tokens_pass_iff (ware : Authenticator) (library : Library)
    (now : Int) (authorization : String) :
    (∀ token, ware.serveHTTP library now authorization = .passed token →
      SignedByUAA ware library authorization) ↔
      ¬ Forged ware library now authorization := by
  constructor
  · intro signed forged
    obtain ⟨token, passed⟩ := passed_of_forged forged
    exact not_signed_of_forged forged (signed token passed)
  · intro genuine token passed
    obtain ⟨segments, presented, verified, _⟩ :=
      serveHTTP_passed_iff.mp passed
    cases method : segments.method with
    | hmac hash =>
        rw [method] at verified
        obtain ⟨available, signature⟩ :=
          (verifyHMAC_ok_iff library).mp verified
        exact absurd
          ⟨segments, hash, presented, method, available, signature⟩ genuine
    | rsa hash =>
        rw [method] at verified
        obtain ⟨sig, rsaKey, decoded, parsed, accepted⟩ :=
          verifyRSA_ok library verified
        exact ⟨segments, hash, sig, rsaKey, method, decoded, parsed, accepted,
          hasScope_of_contains presented.inScope⟩

/-! ## A forged token -/

def publishedKey : String :=
    "-----BEGIN PUBLIC KEY-----\n" ++
    "MIIBIjANBgkqhkiG9w0BAQEFAAOCAQ8AMIIBCgKCAQEA1eUDU+9MaLnurRstr0z3\n" ++
    "iMeiUeYawSVZwSWv3LHRirLiJrsxuSFSZUoqe2q9XQdW9PZZXe/sJHUx5fHSbTam\n" ++
    "XytWJF4e9hPTV4PHa1FI7DhXTikMU49zK3++KPuquHNINyO/dFo4oQRd/LwUHNI1\n" ++
    "/D44wpGnLX/Fj/7mpJbBt76FM7ATTV2o386NVzVsRZfh7dg3Nlqz7gaccOv4NQoO\n" ++
    "e6bAeb9Ev1rGVAE1J8R6RFg7a0QGtUTVaHOeeQbJYWd/vHPqsA6+gFSp6RGklrCr\n" ++
    "UMhmxTFz8nDFY+8+Gw4Rpsj55Dg9bRJe1ceAvHb3bbRDXtKdAnZntdad1WX7wiqc\n" ++
    "1QIDAQAB\n" ++
    "-----END PUBLIC KEY-----\n"

def ascii (text : String) : List UInt8 :=
  text.toList.map fun char => UInt8.ofNat char.toNat

/-- The JSON decoder and HMAC-SHA256, on the forged token.  An RSA signature
would be accepted whatever it is. -/
def forgedLibrary : Library where
  unmarshal bytes :=
    if bytes = ascii "\x7b\"alg\":\"HS256\"\x7d" then
      .ok [("alg", .string "HS256")]
    else if bytes = ascii
        "\x7b\"scope\":[\"notifications.write\"]\x7d" then
      .ok [("scope", .array [.string "notifications.write"])]
    else
      .error "unexpected end of JSON input"
  available _ := true
  sum _ _ := []
  hmac hash key message :=
    if hash = .sha256 ∧ key = publishedKey ∧
        message = "eyJhbGciOiJIUzI1NiJ9." ++
          "eyJzY29wZSI6WyJub3RpZmljYXRpb25zLndyaXRlIl19" then
      [218, 157, 170, 99, 61, 191, 35, 69, 17, 174, 177, 70, 121, 3, 45, 22,
        112, 32, 228, 254, 140, 121, 248, 99, 173, 111, 30, 204, 79, 129, 28,
        11]
    else
      []
  pemDecode _ := some []
  parsePKIXPublicKey _ := .ok (.rsa ⟨0, 65537⟩)
  parseCertificate _ := .error "asn1: structure error"
  verifyPKCS1v15 _ _ _ _ := .ok ()

def forgedHeader : String :=
  "Bearer eyJhbGciOiJIUzI1NiJ9." ++
    "eyJzY29wZSI6WyJub3RpZmljYXRpb25zLndyaXRlIl19." ++
    "2p2qYz2_I0URrrFGeQMtFnAg5P6MefhjrW8ezE-BHAs"

def forgedSegments : Segments forgedLibrary (getToken forgedHeader) where
  first := "eyJhbGciOiJIUzI1NiJ9"
  second := "eyJzY29wZSI6WyJub3RpZmljYXRpb25zLndyaXRlIl19"
  signature := "2p2qYz2_I0URrrFGeQMtFnAg5P6MefhjrW8ezE-BHAs"
  header := [("alg", .string "HS256")]
  claims := [("scope", .array [.string "notifications.write"])]
  method := .hmac .sha256
  split := by decide +kernel
  parsedHeader := rfl
  parsedClaims := rfl
  named := rfl

/-- Everybody who knows the public key can sign for the HMAC methods. -/
theorem hmac_token_passes :
    (∃ token, serveHTTP ⟨["notifications.write"], publishedKey⟩ forgedLibrary
        1424736000 forgedHeader = .passed token) ∧
      ¬ SignedByUAA ⟨["notifications.write"], publishedKey⟩ forgedLibrary
        forgedHeader := by
  have forged : Forged ⟨["notifications.write"], publishedKey⟩ forgedLibrary
      1424736000 forgedHeader :=
    ⟨forgedSegments, .sha256, ⟨rfl, rfl, rfl⟩, rfl, rfl, by decide +kernel⟩
  exact ⟨passed_of_forged forged, not_signed_of_forged forged⟩

end Authenticator

end Notifications.Web
