import Bindery.Zip.Directory

/-! Archives as files: the members with their local headers, the directory, and the end record.
Names are written in UTF-8 and all times are the earliest one. Numbers of a member that are too wide
for their places stand in an extra field. Names of 64 KiB, a directory that starts behind 4 GiB and
more than 65535 members are not read back: their fields keep the low octets. -/
namespace Bindery.Zip

def neededVersion : Nat := 20

/-- The version of the writer, with the mark that permissions are meant as such. -/
def madeBy : Nat := 0x0314

def utf8Flag : Nat := 0x0800

/-- The first day that headers can name. -/
def firstDay : Nat := 0x0021

/-- A plain file that its owner may write and all may read. -/
def permissions : Nat := 0o100644 * 0x10000

def narrow (n : Nat) : Bytes := octets 4 (min n wideMark)

/-- The extra field with those numbers that are too wide for their places, if there are any. -/
def wideField (numbers : List Nat) : Bytes :=
  match numbers.filter (wideMark ≤ ·) with
  | [] => []
  | wide => octets 2 0x0001 ++ octets 2 (8 * wide.length) ++ wide.flatMap (octets 8)

def headerFields (m : Member) (extra : Bytes) : Bytes :=
  octets 2 neededVersion ++ octets 2 utf8Flag ++ octets 2 m.packing.code ++ octets 2 0 ++
    octets 2 firstDay ++ octets 4 m.checksum.toNat ++ narrow m.packedSize ++
    narrow m.size ++ octets 2 (utf8Bytes m.name).length ++ octets 2 extra.length

def localForm (m : Member) : Bytes :=
  let extra := wideField [m.size, m.packedSize]
  localSignature ++ headerFields m extra ++ utf8Bytes m.name ++ extra ++ m.packed

def centralForm (m : Member) (position : Nat) : Bytes :=
  let extra := wideField [m.size, m.packedSize, position]
  centralSignature ++ octets 2 madeBy ++ headerFields m extra ++ octets 2 0 ++ octets 2 0 ++
    octets 2 0 ++ octets 4 permissions ++ narrow position ++ utf8Bytes m.name ++ extra

def directoryFrom (position : Nat) : Archive → Bytes
  | [] => []
  | m :: rest => centralForm m position ++ directoryFrom (position + (localForm m).length) rest

def endForm (count length position : Nat) : Bytes :=
  endSignature ++ octets 2 0 ++ octets 2 0 ++ octets 2 count ++ octets 2 count ++
    octets 4 length ++ octets 4 position ++ octets 2 0

def Archive.toFile (archive : Archive) : Bytes :=
  let members := archive.flatMap localForm
  let directory := directoryFrom 0 archive
  members ++ directory ++ endForm archive.length directory.length members.length

end Bindery.Zip
