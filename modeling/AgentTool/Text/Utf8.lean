/-!
# Text as UTF-8 bytes

`ofUtf8?` reads exactly the bytes that `utf8` writes.
-/

namespace AgentTool
namespace Text

/-- The UTF-8 bytes of a text. -/
def utf8 (cs : List Char) : List UInt8 := cs.flatMap String.utf8EncodeChar

/-- The number of UTF-8 bytes of a text. -/
def utf8Size (cs : List Char) : Nat := (cs.map Char.utf8Size).foldl (· + ·) 0

/-- The text of UTF-8 bytes. -/
def ofUtf8? (bs : List UInt8) : Option (List Char) :=
  (String.fromUTF8? (ByteArray.mk bs.toArray)).map String.toList

end Text
end AgentTool
