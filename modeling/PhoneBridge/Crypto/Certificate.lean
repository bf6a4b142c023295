import PhoneBridge.Library.Der

/-!
# X.509 certificates

The DER form of a certificate with an uncompressed P-256 point as its key, and where in that form
the point stands.
-/

namespace PhoneBridge.Crypto

open Library

/-- An uncompressed point of the curve P-256. -/
structure EcPoint where
  x : List UInt8
  y : List UInt8
  length_x : x.length = 32
  length_y : y.length = 32

/-- The 65 bytes of a point. -/
def EcPoint.bytes (point : EcPoint) : List UInt8 := 0x04 :: (point.x ++ point.y)

namespace EcPoint

variable (point : EcPoint)

@[simp]
theorem length_bytes : point.bytes.length = 65 := by
  simp [bytes, point.length_x, point.length_y]

theorem exists_head : ∃ b, point.x.head? = some b := by
  have hlength := point.length_x
  cases hx : point.x with
  | nil => simp [hx] at hlength
  | cons b x => exact ⟨b, rfl⟩

/-- The second byte is the first of the first coordinate. -/
theorem getElem?_bytes_one : point.bytes[1]? = point.x.head? := by
  obtain ⟨b, hb⟩ := point.exists_head
  obtain ⟨x, hx⟩ := List.head?_eq_some_iff.mp hb
  simp [bytes, hx]

end EcPoint

/-- An algorithm by the content of its object identifier, and the DER form of its parameters. -/
structure AlgorithmIdentifier where
  algorithm : List UInt8
  parameters : List UInt8

def AlgorithmIdentifier.toDer (identifier : AlgorithmIdentifier) : List UInt8 :=
  Der.sequence [Der.objectIdentifier identifier.algorithm, identifier.parameters]

/-- The algorithm of keys on the curve P-256. -/
def ecPublicKey : AlgorithmIdentifier where
  algorithm := [0x2A, 0x86, 0x48, 0xCE, 0x3D, 0x02, 0x01]
  parameters := Der.objectIdentifier [0x2A, 0x86, 0x48, 0xCE, 0x3D, 0x03, 0x01, 0x07]

/-- The algorithm of signatures by such keys. -/
def ecdsaWithSha256 : AlgorithmIdentifier where
  algorithm := [0x2A, 0x86, 0x48, 0xCE, 0x3D, 0x04, 0x03, 0x02]
  parameters := []

/-- An attribute of a name; the value is in DER form. -/
structure Attribute where
  type : List UInt8
  value : List UInt8

def Attribute.toDer (attr : Attribute) : List UInt8 :=
  Der.sequence [Der.objectIdentifier attr.type, attr.value]

/-- A name: sets of attributes. -/
structure Name where
  rdns : List (List Attribute)

def Name.toDer (name : Name) : List UInt8 :=
  Der.sequence (name.rdns.map fun rdn ↦ Der.setOf (rdn.map Attribute.toDer))

/-- The two times of a validity in DER form. -/
structure Validity where
  notBefore : List UInt8
  notAfter : List UInt8

def Validity.toDer (validity : Validity) : List UInt8 :=
  Der.sequence [validity.notBefore, validity.notAfter]

structure Extension where
  id : List UInt8
  critical : Bool
  value : List UInt8

def Extension.toDer (extension : Extension) : List UInt8 :=
  Der.sequence [Der.objectIdentifier extension.id,
    if extension.critical then Der.boolean true else [], Der.octetString extension.value]

/-- A certificate of a P-256 key. -/
structure Certificate where
  /-- Absent in the first version. -/
  version : Option UInt8
  serialNumber : List UInt8
  signature : AlgorithmIdentifier
  issuer : Name
  validity : Validity
  subject : Name
  point : EcPoint
  /-- The unique identifiers of the issuer and the subject in DER form. -/
  uniqueIds : List (List UInt8)
  extensions : List Extension
  signatureAlgorithm : AlgorithmIdentifier
  signatureValue : List UInt8

namespace Certificate

variable (certificate : Certificate)

def subjectPublicKeyInfo : List (List UInt8) :=
  [ecPublicKey.toDer, Der.bitString certificate.point.bytes]

/-- The fields before the key. -/
def fieldsBefore : List (List UInt8) :=
  [(certificate.version.map fun version ↦ Der.explicit 0 (Der.integer [version])).getD [],
    Der.integer certificate.serialNumber, certificate.signature.toDer, certificate.issuer.toDer,
    certificate.validity.toDer, certificate.subject.toDer]

/-- The fields after the key. -/
def fieldsAfter : List (List UInt8) :=
  certificate.uniqueIds ++
    if certificate.extensions = [] then []
    else [Der.explicit 3 (Der.sequence (certificate.extensions.map Extension.toDer))]

def tbsCertificate : List (List UInt8) :=
  certificate.fieldsBefore ++ Der.sequence certificate.subjectPublicKeyInfo ::
    certificate.fieldsAfter

def toDer : List UInt8 :=
  Der.sequence [Der.sequence certificate.tbsCertificate, certificate.signatureAlgorithm.toDer,
    Der.bitString certificate.signatureValue]

/-! ## Where the point stands -/

/-- The bytes before the point. -/
def beforePoint : List UInt8 :=
  Der.header 0x30 [Der.sequence certificate.tbsCertificate, certificate.signatureAlgorithm.toDer,
      Der.bitString certificate.signatureValue].flatten ++
    Der.header 0x30 certificate.tbsCertificate.flatten ++ certificate.fieldsBefore.flatten ++
    Der.header 0x30 certificate.subjectPublicKeyInfo.flatten ++ ecPublicKey.toDer ++
    Der.header 0x03 (0 :: certificate.point.bytes) ++ [0]

/-- The bytes after the point. -/
def afterPoint : List UInt8 :=
  certificate.fieldsAfter.flatten ++ certificate.signatureAlgorithm.toDer ++
    Der.bitString certificate.signatureValue

theorem toDer_eq : certificate.toDer =
    certificate.beforePoint ++ (certificate.point.bytes ++ certificate.afterPoint) := by
  have hbits : Der.bitString certificate.point.bytes =
      Der.header 0x03 (0 :: certificate.point.bytes) ++ 0 :: certificate.point.bytes :=
    Der.value_eq _ _
  have hkey : Der.sequence certificate.subjectPublicKeyInfo =
      Der.header 0x30 certificate.subjectPublicKeyInfo.flatten ++ (ecPublicKey.toDer ++
        (Der.header 0x03 (0 :: certificate.point.bytes) ++ 0 :: certificate.point.bytes)) := by
    rw [Der.sequence, Der.value_eq, ← hbits]
    simp [subjectPublicKeyInfo]
  have htbs : Der.sequence certificate.tbsCertificate =
      Der.header 0x30 certificate.tbsCertificate.flatten ++ (certificate.fieldsBefore.flatten ++
        (Der.sequence certificate.subjectPublicKeyInfo ++ certificate.fieldsAfter.flatten)) := by
    rw [Der.sequence, Der.value_eq]
    simp [tbsCertificate]
  rw [toDer, Der.sequence, Der.value_eq]
  simp only [beforePoint, afterPoint, List.flatten_cons, List.flatten_nil, List.append_nil, htbs,
    hkey, List.append_assoc, List.cons_append, List.nil_append]

/-- A certificate does not end with its point. -/
theorem afterPoint_ne_nil : certificate.afterPoint ≠ [] := by
  simp [afterPoint, Der.bitString, Der.value]

/-- The algorithm of the signature comes before the point. -/
theorem algorithm_isInfix : certificate.signature.algorithm <:+: certificate.beforePoint := by
  have halgorithm : certificate.signature.algorithm <:+: certificate.signature.toDer :=
    (Der.content_isInfix _ _).trans (Der.element_isInfix List.mem_cons_self)
  have hfield : certificate.signature.toDer <:+: certificate.fieldsBefore.flatten :=
    List.infix_of_mem_flatten (by simp [fieldsBefore])
  have hbefore : certificate.fieldsBefore.flatten <:+: certificate.beforePoint := by
    simp only [beforePoint, List.append_assoc]
    exact (List.infix_append' _ _ _).trans (List.suffix_append _ _).isInfix
  exact halgorithm.trans (hfield.trans hbefore)

end Certificate

end PhoneBridge.Crypto
