import LineShell.Text.Chunks
import LineShell.Text.Lines

namespace LineShell.Text

/-- A file that is read as text: the text in it, up to the first chunk that is none. -/
structure Source where
  text : List Char
  /-- What is wrong with the bytes after the text, if the file is no text. -/
  flaw? : Option Utf8.Flaw

def Source.ofBytes (bytes : List UInt8) : Source :=
  let (chars, flaw?) := Utf8.decodeUpTo (chunks chunkSize bytes)
  let reader := NewlineReader.start.feed chars
  ⟨if flaw?.isSome then reader.text else reader.finish, flaw?⟩

end LineShell.Text
