import ScanBinder.Codec.Aes
import ScanBinder.Codec.Md5
import ScanBinder.Codec.Rc4
import ScanBinder.Pdf.Object

/-!
# Encrypted documents

The strings and the data of the streams of a document may be enciphered. A dictionary says
how, and holds two entries that tell whether a password is right, that of the owner or that of
a user. The key of the file comes from the password of the user, and each object has a key of
its own. A document that the empty password opens can be read.
-/

namespace ScanBinder.Pdf

/-- How strings or streams are enciphered. -/
inductive Cipher where
  | none
  | stream
  | block
deriving DecidableEq

/-- What the dictionary of an encrypted document says. -/
structure Protection where
  revision : Int
  /-- The bytes of the key of the file. -/
  keyLength : Nat
  ownerEntry : Bytes
  userEntry : Bytes
  permissions : Int
  coversMetadata : Bool
  fileId : Bytes
  strings : Cipher
  streams : Cipher

namespace Protection

/-- What passwords are filled up with to thirty-two bytes. -/
def filler : Bytes :=
  [0x28, 0xBF, 0x4E, 0x5E, 0x4E, 0x75, 0x8A, 0x41, 0x64, 0x00, 0x4E, 0x56, 0xFF, 0xFA, 0x01, 0x08,
    0x2E, 0x2E, 0x00, 0xB6, 0xD0, 0x68, 0x3E, 0x80, 0x2F, 0x0C, 0xA9, 0xFE, 0x64, 0x53, 0x69, 0x7A]

/-- A password of thirty-two bytes. -/
def filled (password : Bytes) : Bytes :=
  (password.take 32 ++ filler).take 32

/-- Applies `f` so many times. -/
def times {α : Type} (f : α → α) : Nat → α → α
  | 0, a => a
  | n + 1, a => times f n (f a)

/-- The key of the file for a password of the user. -/
def fileKey (p : Protection) (password : Bytes) : Bytes :=
  let permissions := Md5.littleBytes 4 (p.permissions % 4294967296).toNat
  let metadata := if 4 ≤ p.revision ∧ !p.coversMetadata then [0xFF, 0xFF, 0xFF, 0xFF] else []
  let digest := md5 (filled password ++ p.ownerEntry ++ permissions ++ p.fileId ++ metadata)
  let rounds := if 3 ≤ p.revision then 50 else 0
  (times (fun d => md5 (d.take p.keyLength)) rounds digest).take p.keyLength

/-- A key that differs in each round. -/
def roundKey (key : Bytes) (round : Nat) : Bytes :=
  key.map (· ^^^ UInt8.ofNat round)

/-- The entry that shows that a key of the file is right. Later revisions check only its
front. -/
def expectedEntry (p : Protection) (key : Bytes) : Bytes :=
  if p.revision = 2 then rc4 key filler
  else
    (List.range 20).foldl (fun bs round => rc4 (roundKey key round) bs) (md5 (filler ++ p.fileId))

/-- Whether a password is that of the user. -/
def isUser (p : Protection) (password : Bytes) : Bool :=
  let entry := p.expectedEntry (p.fileKey password)
  if p.revision = 2 then entry = p.userEntry else entry.take 16 = p.userEntry.take 16

/-- The password of the user that the entry of the owner holds, read with a password of the
owner. -/
def userPassword (p : Protection) (password : Bytes) : Bytes :=
  let rounds := if 3 ≤ p.revision then 50 else 0
  let key := (times md5 rounds (md5 (filled password))).take p.keyLength
  if p.revision = 2 then rc4 key p.ownerEntry
  else
    (List.range 20).reverse.foldl (fun bs round => rc4 (roundKey key round) bs) p.ownerEntry

/-- Whether a password opens the document, as that of the owner or of the user. -/
def isOpenedBy (p : Protection) (password : Bytes) : Bool :=
  p.isUser (p.userPassword password) || p.isUser password

/-! ## Reading the dictionary -/

/-- The cipher that a name stands for. -/
def cipherNamed (dict : Dict) (name : Bytes) : Option Cipher :=
  match dict.get? "CF" with
  | some (.dict filters) =>
    match filters.lookup name with
    | some (.dict filter) =>
      match Dict.get? filter "CFM" with
      | some (.name n) =>
        if n = Bytes.ofText "None" then some .none
        else if n = Bytes.ofText "V2" then some .stream
        else if n = Bytes.ofText "AESV2" then some .block
        else none
      | _ => none
    | _ => none
  | _ => none

/-- The cipher that a key of the dictionary chooses. Only the fourth version has a choice. -/
def cipherOf (dict : Dict) (version : Int) (key : String) : Cipher :=
  match dict.get? key with
  | some (.name n) =>
    if version < 4 then .stream
    else if n = Bytes.ofText "Identity" then .none
    else (cipherNamed dict n).getD .stream
  | _ => .stream

/-- The bytes of the key of the file, if a sound number of bits is given. -/
def keyLength? (dict : Dict) (version revision : Int) : Option Nat :=
  match dict.get? "Length" with
  | some (.int n) =>
    if n % 8 = 0 ∧ 40 ≤ n ∧ n ≤ 128 then some (if revision = 2 then 5 else n.toNat / 8) else none
  | some _ => none
  | none => some (if version = 4 then 16 else 5)

/-- The first of the two names of the file in the trailer. -/
def fileId? (trailer : Dict) : Option Bytes :=
  match trailer.get? "ID" with
  | some (.array (.str id :: _)) => some id
  | _ => none

/-- What the dictionary says, if it is complete. -/
def read? (dict trailer : Dict) : Option Protection := do
  let fileId ← fileId? trailer
  match dict.get? "V", dict.get? "R", dict.get? "O", dict.get? "U", dict.get? "P" with
  | some (.int version), some (.int revision), some (.str ownerEntry), some (.str userEntry),
      some (.int permissions) =>
    if version < 1 ∨ 4 < version ∨ revision < 2 ∨ 4 < revision then none
    else
      let keyLength ← keyLength? dict version revision
      let coversMetadata := match dict.get? "EncryptMetadata" with
        | some (.bool b) => b
        | _ => true
      return { revision, keyLength, ownerEntry, userEntry, permissions, coversMetadata, fileId
               strings := cipherOf dict version "StrF"
               streams := cipherOf dict version "StmF" }
  | _, _, _, _, _ => none

end Protection

/-! ## Deciphering objects -/

/-- The key of an object. The cipher on blocks adds four bytes of its own. -/
def objectKey (fileKey : Bytes) (id : ObjectId) (salt : Bytes) : Bytes :=
  let number := Md5.littleBytes 3 id.number
  let generation := Md5.littleBytes 2 id.generation
  (md5 (fileKey ++ number ++ generation ++ salt)).take (min 16 (fileKey.length + 5))

/-- Deciphers a byte string of an object. One that cannot be deciphered stays as it is. -/
def Cipher.decipher (c : Cipher) (fileKey : Bytes) (id : ObjectId) (bs : Bytes) : Bytes :=
  match c with
  | .none => bs
  | .stream => rc4 (objectKey fileKey id []) bs
  | .block => (aesDecipher? (objectKey fileKey id (Bytes.ofText "sAlT")) bs).getD bs

mutual

/-- A value with all of its strings changed. -/
def Value.mapStrings (f : Bytes → Bytes) : Value → Value
  | .str s => .str (f s)
  | .array items => .array (mapItemStrings f items)
  | .dict entries => .dict (mapEntryStrings f entries)
  | v => v

/-- Values with all of their strings changed. -/
def mapItemStrings (f : Bytes → Bytes) : List Value → List Value
  | [] => []
  | v :: vs => v.mapStrings f :: mapItemStrings f vs

/-- Entries with all strings of their values changed. -/
def mapEntryStrings (f : Bytes → Bytes) : List (Bytes × Value) → List (Bytes × Value)
  | [] => []
  | (k, v) :: es => (k, v.mapStrings f) :: mapEntryStrings f es

end

/-- Deciphers an object. Tables in streams are never enciphered. -/
def Protection.decipher (p : Protection) (fileKey : Bytes) (id : ObjectId) : Object → Object
  | .value v => .value (v.mapStrings (p.strings.decipher fileKey id))
  | .stream s =>
    match s.dict.get? "Type" with
    | some (.name n) =>
      if n = Bytes.ofText "XRef" then .stream s
      else .stream { s with data := p.streams.decipher fileKey id s.data }
    | _ => .stream { s with data := p.streams.decipher fileKey id s.data }

end ScanBinder.Pdf
