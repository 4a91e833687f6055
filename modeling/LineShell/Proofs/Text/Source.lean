import LineShell.Proofs.Text.Utf8
import LineShell.Text.Source

namespace LineShell.Text.Source

variable {bytes : List UInt8} {chars : List Char}

theorem ofBytes_of_decode (h : Utf8.decode bytes = .ok chars) :
    ofBytes bytes = ⟨uniformNewlines chars, none⟩ := by
  rw [← flatten_chunks chunkSize (by decide) bytes] at h
  rw [ofBytes, Utf8.decodeUpTo_of_decode h]
  rfl

end LineShell.Text.Source
