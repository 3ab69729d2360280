import Companion.Record.Group

/-!
What user records and group records have in common: a kind, an identifier, a new record for an
identifier, and a JSON form.
-/

namespace Companion

open Number Text Time Json

class Record (R : Type) where
  kind : RecordKind
  id : R → Int64
  blank : RecordSettings → Int64 → Instant → R
  print : R → List Char
  read : Instant → Reader R

instance : Record UserRecord where
  kind := .user
  id := UserRecord.id
  blank := UserRecord.blank
  print := UserRecord.print
  read := UserRecord.read

instance : Record GroupRecord where
  kind := .group
  id := GroupRecord.id
  blank := fun _ => GroupRecord.blank
  print := GroupRecord.print
  read := GroupRecord.read

namespace Record

def encode {R : Type} [Record R] (r : R) : Octets := utf8 (print r)

/-- The record that octets store, with `now` where a timestamp is missing. -/
def decode {R : Type} [Record R] (now : Instant) (octets : Octets) : Except Fault R :=
  readAll (read now) (symbolsOfOctets octets)

end Record

end Companion
