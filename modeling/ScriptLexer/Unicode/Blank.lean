import ScriptLexer.Unicode.CodeSet

/-!
# Blank characters

The characters that separate tokens and mean nothing else: those with the
Unicode property White_Space (specification, section 10.8).
-/

namespace ScriptLexer.Unicode

/-- The characters with the property White_Space. -/
def blanks : CodeSet :=
  .ofRanges
    [⟨0x9, 0xD⟩, ⟨0x20, 0x20⟩, ⟨0x85, 0x85⟩, ⟨0xA0, 0xA0⟩, ⟨0x1680, 0x1680⟩, ⟨0x2000, 0x200A⟩,
    ⟨0x2028, 0x2029⟩, ⟨0x202F, 0x202F⟩, ⟨0x205F, 0x205F⟩, ⟨0x3000, 0x3000⟩]
    (by decide +kernel)

/-- A blank: tab, line break, space, or another white space character. -/
def isBlank (c : Char) : Bool := blanks.contains c

end ScriptLexer.Unicode
