/-
This file shows that a cursor is read back as it was written.
-/

import ContentMount.Proofs.Json.Roundtrip
import ContentMount.Remote.Bucket.Client

namespace ContentMount.Remote.Bucket

/-- A cursor is read back as it was written. -/
theorem Cursor.read?_write (cursor : Cursor) : Cursor.read? cursor.write = some cursor := by
  have settled : (Json.object
      [("prefix", .string cursor.start), ("token", .string cursor.token)]).Settled :=
    .object (by simpa using ⟨.string _, .string _⟩)
  rw [Cursor.read?, Cursor.write, Json.read_text settled]
  rfl

end ContentMount.Remote.Bucket
