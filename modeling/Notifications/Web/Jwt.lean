import Notifications.Lib.Strings

/-!
# The JWT library

`jwt.Parse` of the vendored jwt-go, with the signing methods it registers.  The
token's own header names the method, and the method decides how the key that
the callback returns is read.

The JSON decoder, the hash functions, PEM, X.509 and RSA are parameters.  A
byte slice made from a string is that string.  The token that `Parse` also
returns with an error is left out, and so is the offset in a base64 error.
-/

set_option autoImplicit false

namespace Notifications.Web.Jwt

open Notifications.Lib

/-- `interface{}`, as `encoding/json` fills it. -/
inductive Json where
  | null
  | bool (value : Bool)
  /-- a `float64`, by its conversion to `int64` -/
  | number (value : Int)
  | string (value : String)
  | array (elements : List Json)
  | object (members : List (String × Json))

/-- `map[string]interface{}`. -/
abbrev Fields : Type := List (String × Json)

/-- `crypto.Hash`. -/
inductive Hash where
  | sha256
  | sha384
  | sha512
  deriving DecidableEq, Repr

structure RSAPublicKey where
  modulus : Nat
  exponent : Nat
  deriving DecidableEq, Repr

inductive PublicKey where
  | rsa (key : RSAPublicKey)
  | other
  deriving DecidableEq, Repr

structure Library where
  /-- `json.Unmarshal` into a map -/
  unmarshal : List UInt8 → Except String Fields
  /-- `Hash.Available` -/
  available : Hash → Bool
  sum : Hash → String → List UInt8
  hmac : Hash → (key message : String) → List UInt8
  /-- the bytes of the first block -/
  pemDecode : String → Option (List UInt8)
  parsePKIXPublicKey : List UInt8 → Except String PublicKey
  parseCertificate : List UInt8 → Except String PublicKey
  verifyPKCS1v15 : RSAPublicKey → Hash → (hashed signature : List UInt8) →
    Except String Unit

/-! ## Segments -/

/-- The alphabet of `base64.URLEncoding`. -/
def sextet (char : Char) : Option Nat :=
  if 'A' ≤ char ∧ char ≤ 'Z' then
    some (char.toNat - 'A'.toNat)
  else if 'a' ≤ char ∧ char ≤ 'z' then
    some (char.toNat - 'a'.toNat + 26)
  else if '0' ≤ char ∧ char ≤ '9' then
    some (char.toNat - '0'.toNat + 52)
  else if char = '-' then
    some 62
  else if char = '_' then
    some 63
  else
    none

/-- Four characters make three bytes; the last four may end in padding. -/
def decodeQuanta : List Char → Option (List UInt8)
  | [] => some []
  | a :: b :: c :: d :: rest => do
      let first ← sextet a
      let second ← sextet b
      let byte := UInt8.ofNat (first * 4 + second / 16)
      if d = '=' then
        if rest ≠ [] then
          none
        else if c = '=' then
          some [byte]
        else do
          let third ← sextet c
          some [byte, UInt8.ofNat (second % 16 * 16 + third / 4)]
      else do
        let third ← sextet c
        let fourth ← sextet d
        let later ← decodeQuanta rest
        some (byte :: UInt8.ofNat (second % 16 * 16 + third / 4) ::
          UInt8.ofNat (third % 4 * 64 + fourth) :: later)
  | _ => none

/-- `base64.URLEncoding.DecodeString`, which skips line breaks. -/
def decodeString (chars : List Char) : Except String (List UInt8) :=
  match decodeQuanta (chars.filter fun char => char ≠ '\n' ∧ char ≠ '\r') with
  | some bytes => .ok bytes
  | none => .error "illegal base64 data"

def decodeSegment (segment : String) : Except String (List UInt8) :=
  let rest := segment.utf8ByteSize % 4
  if 0 < rest then
    decodeString (segment.toList ++ List.replicate (4 - rest) '=')
  else
    decodeString segment.toList

/-! ## Signing methods -/

/-- What a `Keyfunc` returns. -/
inductive Key where
  | bytes (text : String)
  | rsaPublicKey (key : RSAPublicKey)
  | other

inductive SigningMethod where
  | hmac (hash : Hash)
  | rsa (hash : Hash)
  deriving DecidableEq, Repr

def getSigningMethod (alg : String) : Option SigningMethod :=
  if alg = "HS256" then some (.hmac .sha256)
  else if alg = "HS384" then some (.hmac .sha384)
  else if alg = "HS512" then some (.hmac .sha512)
  else if alg = "RS256" then some (.rsa .sha256)
  else if alg = "RS384" then some (.rsa .sha384)
  else if alg = "RS512" then some (.rsa .sha512)
  else none

def errInvalidKey : String := "key is invalid or of invalid type"

def errHashUnavailable : String :=
  "the requested hash function is unavailable"

def errSignatureInvalid : String := "signature is invalid"

def errKeyMustBePEMEncoded : String :=
  "Invalid Key: Key must be PEM encoded PKCS1 or PKCS8 private key"

def errNotRSAPrivateKey : String := "Key is not a valid RSA private key"

variable (library : Library)

def parseRSAPublicKeyFromPEM (key : String) : Except String RSAPublicKey :=
  match library.pemDecode key with
  | none => .error errKeyMustBePEMEncoded
  | some block => do
      let parsedKey ← match library.parsePKIXPublicKey block with
        | .ok parsedKey => .ok parsedKey
        | .error _ => library.parseCertificate block
      match parsedKey with
      | .rsa rsaKey => .ok rsaKey
      | .other => .error errNotRSAPrivateKey

def verifyHMAC (hash : Hash) (signingString signature : String) :
    Key → Except String Unit
  | .bytes keyBytes => do
      let sig ← decodeSegment signature
      if library.available hash = false then
        .error errHashUnavailable
      else if sig = library.hmac hash keyBytes signingString then
        .ok ()
      else
        .error errSignatureInvalid
  | _ => .error errInvalidKey

def verifyRSA (hash : Hash) (signingString signature : String) (key : Key) :
    Except String Unit := do
  let sig ← decodeSegment signature
  let rsaKey ← match key with
    | .bytes text => parseRSAPublicKeyFromPEM library text
    | .rsaPublicKey rsaKey => .ok rsaKey
    | .other => .error errInvalidKey
  if library.available hash = false then
    .error errHashUnavailable
  else
    library.verifyPKCS1v15 rsaKey hash (library.sum hash signingString) sig

def SigningMethod.verify (signingString signature : String) (key : Key) :
    SigningMethod → Except String Unit
  | .hmac hash => verifyHMAC library hash signingString signature key
  | .rsa hash => verifyRSA library hash signingString signature key

/-! ## Parsing -/

structure Token where
  raw : String
  method : SigningMethod
  header : Fields
  claims : Fields
  valid : Bool

structure ValidationError where
  err : String
  errors : Nat
  deriving DecidableEq, Repr

def validationErrorMalformed : Nat := 1

def validationErrorUnverifiable : Nat := 2

def validationErrorSignatureInvalid : Nat := 4

def validationErrorExpired : Nat := 8

def validationErrorNotValidYet : Nat := 16

namespace ValidationError

def error (failure : ValidationError) : String :=
  if failure.err = "" then "token is invalid" else failure.err

def empty : ValidationError := ⟨"", 0⟩

/-- `vErr.err = text; vErr.Errors |= flag`. -/
def flag (failure : ValidationError) (text : String) (bit : Nat) :
    ValidationError :=
  ⟨text, failure.errors ||| bit⟩

def valid (failure : ValidationError) : Bool := !(failure.errors > 0)

end ValidationError

def parseFields (segment : String) : Except ValidationError Fields := do
  let bytes ← (decodeSegment segment).mapError
    fun text => ⟨text, validationErrorMalformed⟩
  (library.unmarshal bytes).mapError
    fun text => ⟨text, validationErrorMalformed⟩

def lookupMethod (header : Fields) : Except ValidationError SigningMethod :=
  match header.lookup "alg" with
  | some (.string alg) =>
      match getSigningMethod alg with
      | some method => .ok method
      | none => .error ⟨"signing method (alg) is unavailable.",
          validationErrorUnverifiable⟩
  | _ => .error ⟨"signing method (alg) is unspecified.",
      validationErrorUnverifiable⟩

abbrev Keyfunc : Type := Token → Except String Key

def lookupKey (keyFunc : Option Keyfunc) (token : Token) :
    Except ValidationError Key :=
  match keyFunc with
  | none => .error ⟨"no Keyfunc was provided.", validationErrorUnverifiable⟩
  | some keyFunc =>
      (keyFunc token).mapError fun text => ⟨text, validationErrorUnverifiable⟩

/-- `now > int64(exp)`. -/
def expired (now : Int) (claims : Fields) : Bool :=
  match claims.lookup "exp" with
  | some (.number exp) => exp < now
  | _ => false

/-- `now < int64(nbf)`. -/
def early (now : Int) (claims : Fields) : Bool :=
  match claims.lookup "nbf" with
  | some (.number nbf) => now < nbf
  | _ => false

/-- The checks of the claims, and then of the signature. -/
def validate (now : Int) (claims : Fields) (verified : Except String Unit) :
    ValidationError :=
  let vErr := ValidationError.empty
  let vErr := if expired now claims then
    vErr.flag "token is expired" validationErrorExpired else vErr
  let vErr := if early now claims then
    vErr.flag "token is not valid yet" validationErrorNotValidYet else vErr
  match verified with
  | .error text => vErr.flag text validationErrorSignatureInvalid
  | .ok _ => vErr

/-- `Parse`, at the time `now` in seconds. -/
def parse (now : Int) (tokenString : String) (keyFunc : Option Keyfunc) :
    Except ValidationError Token :=
  match split tokenString '.' with
  | [first, second, signature] => do
      let header ← parseFields library first
      let claims ← parseFields library second
      let method ← lookupMethod header
      let token : Token := ⟨tokenString, method, header, claims, false⟩
      let key ← lookupKey keyFunc token
      let vErr := validate now claims
        (method.verify library (first ++ "." ++ second) signature key)
      if vErr.valid then
        .ok { token with valid := true }
      else
        .error vErr
  | _ => .error ⟨"token contains an invalid number of segments",
      validationErrorMalformed⟩

/-! ## What is accepted -/

theorem valid_iff (failure : ValidationError) :
    failure.valid = true ↔ failure.errors = 0 := by
  simp [ValidationError.valid]

theorem flag_invalid (failure : ValidationError) (text : String) {bit : Nat}
    (positive : 0 < bit) : (failure.flag text bit).valid = false := by
  rw [Bool.eq_false_iff, ne_eq, valid_iff, ValidationError.flag,
    Nat.or_eq_zero_iff]
  omega

theorem validate_valid_iff (now : Int) (claims : Fields)
    (verified : Except String Unit) :
    (validate now claims verified).valid = true ↔
      expired now claims = false ∧ early now claims = false ∧
        verified = .ok () := by
  unfold validate
  cases verified with
  | error text => simp [flag_invalid, validationErrorSignatureInvalid]
  | ok value =>
      cases expired now claims <;> cases early now claims <;>
        simp [valid_iff, ValidationError.flag, ValidationError.empty,
          validationErrorExpired, validationErrorNotValidYet]

theorem verifyHMAC_ok_iff {hash : Hash}
    {signingString signature keyBytes : String} :
    verifyHMAC library hash signingString signature (.bytes keyBytes) =
        .ok () ↔
      library.available hash = true ∧ decodeSegment signature =
        .ok (library.hmac hash keyBytes signingString) := by
  simp only [verifyHMAC, bind, Except.bind]
  cases decodeSegment signature with
  | error text => simp
  | ok sig =>
      dsimp only
      split
      · simp_all
      · split <;> simp_all

/-- The RSA methods read bytes as a PEM public key. -/
theorem verifyRSA_ok {hash : Hash} {signingString signature text : String}
    (verified : verifyRSA library hash signingString signature
      (.bytes text) = .ok ()) :
    ∃ sig rsaKey, decodeSegment signature = .ok sig ∧
      parseRSAPublicKeyFromPEM library text = .ok rsaKey ∧
      library.verifyPKCS1v15 rsaKey hash (library.sum hash signingString)
        sig = .ok () := by
  simp only [verifyRSA, bind, Except.bind] at verified
  cases decoded : decodeSegment signature with
  | error failure =>
      rw [decoded] at verified
      cases verified
  | ok sig =>
      cases parsed : parseRSAPublicKeyFromPEM library text with
      | error failure =>
          rw [decoded, parsed] at verified
          cases verified
      | ok rsaKey =>
          rw [decoded, parsed] at verified
          dsimp only at verified
          split at verified
          · cases verified
          · exact ⟨sig, rsaKey, rfl, rfl, verified⟩

/-- The segments of a token, decoded, and the method that its header names. -/
structure Segments (tokenString : String) where
  first : String
  second : String
  signature : String
  header : Fields
  claims : Fields
  method : SigningMethod
  split : split tokenString '.' = [first, second, signature]
  parsedHeader : parseFields library first = .ok header
  parsedClaims : parseFields library second = .ok claims
  named : lookupMethod header = .ok method

namespace Segments

variable {library} {tokenString : String}

def signingString (segments : Segments library tokenString) : String :=
  segments.first ++ "." ++ segments.second

/-- The token as `Parse` returns it. -/
def token (segments : Segments library tokenString) : Token :=
  ⟨tokenString, segments.method, segments.header, segments.claims, true⟩

theorem tokenString_ne_empty (segments : Segments library tokenString) :
    tokenString ≠ "" := by
  rintro rfl
  have split := segments.split
  simp [Lib.split, splitList] at split

theorem unique (left right : Segments library tokenString) :
    left = right := by
  obtain ⟨_, _, _, _, _, _, split, header, claims, named⟩ := left
  obtain ⟨_, _, _, _, _, _, split', header', claims', named'⟩ := right
  cases split.symm.trans split'
  cases header.symm.trans header'
  cases claims.symm.trans claims'
  cases named.symm.trans named'
  rfl

end Segments

section Parse

variable {library} {now : Int} {tokenString : String} {keyFunc : Keyfunc}

theorem parse_segments (segments : Segments library tokenString) :
    parse library now tokenString (some keyFunc) =
      match keyFunc { segments.token with valid := false } with
      | .error text => .error ⟨text, validationErrorUnverifiable⟩
      | .ok key =>
          let vErr := validate now segments.claims
            (segments.method.verify library segments.signingString
              segments.signature key)
          if vErr.valid then .ok segments.token else .error vErr := by
  unfold parse
  rw [segments.split]
  dsimp only
  rw [segments.parsedHeader, segments.parsedClaims]
  simp only [bind, Except.bind, segments.named, lookupKey]
  unfold Segments.token
  cases keyFunc ⟨tokenString, segments.method, segments.header,
    segments.claims, false⟩ <;> rfl

theorem segments_of_parse {token : Token}
    (parsed : parse library now tokenString (some keyFunc) = .ok token) :
    Nonempty (Segments library tokenString) := by
  unfold parse at parsed
  split at parsed
  · rename_i first second signature split
    cases header : parseFields library first with
    | error failure =>
        rw [header] at parsed
        cases parsed
    | ok headerFields =>
        cases claims : parseFields library second with
        | error failure =>
            rw [header, claims] at parsed
            cases parsed
        | ok claimFields =>
            cases named : lookupMethod headerFields with
            | error failure =>
                rw [header, claims] at parsed
                simp only [bind, Except.bind, named] at parsed
                cases parsed
            | ok method =>
                exact ⟨first, second, signature, headerFields, claimFields,
                  method, split, header, claims, named⟩
  · cases parsed

/-- `Parse` accepts exactly the tokens that can be read, are current and pass
the verification of the method that they name. -/
theorem parse_ok_iff {token : Token} :
    parse library now tokenString (some keyFunc) = .ok token ↔
      ∃ segments : Segments library tokenString, ∃ key,
        keyFunc { segments.token with valid := false } = .ok key ∧
        expired now segments.claims = false ∧
        early now segments.claims = false ∧
        segments.method.verify library segments.signingString
          segments.signature key = .ok () ∧
        token = segments.token := by
  constructor
  · intro parsed
    obtain ⟨segments⟩ := segments_of_parse parsed
    rw [parse_segments segments] at parsed
    split at parsed
    · cases parsed
    · rename_i key given
      dsimp only at parsed
      split at parsed
      · rename_i valid
        obtain ⟨current, started, verified⟩ :=
          (validate_valid_iff _ _ _).mp valid
        cases parsed
        exact ⟨segments, key, given, current, started, verified, rfl⟩
      · cases parsed
  · rintro ⟨segments, key, given, current, started, verified, rfl⟩
    have valid := (validate_valid_iff now segments.claims _).mpr
      ⟨current, started, verified⟩
    rw [parse_segments segments, given]
    dsimp only
    rw [if_pos valid]

end Parse

end Notifications.Web.Jwt
