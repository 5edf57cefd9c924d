/-!
# Places in source modules

A span is a range of offsets in one source module.  Offsets and module numbers
are words of 32 bits.  The two greatest module numbers are reserved: one for
spans that belong to no module yet, one for transient modules.
-/

namespace TypeRules

/-- The number of a source module. -/
structure ModuleId where
  /-- The number itself. -/
  index : UInt32
  deriving DecidableEq

namespace ModuleId

/-- The first module. -/
def root : ModuleId :=
  ⟨0⟩

/-- The module of a span that was given none. -/
def unplaced : ModuleId :=
  ⟨0xfffffffe⟩

/-- The module of text that is not kept. -/
def transient : ModuleId :=
  ⟨0xffffffff⟩

/-- The module numbered next, unless the numbers are used up. -/
def next? (current : ModuleId) : Option ModuleId :=
  if current = transient then none else some ⟨current.index + 1⟩

end ModuleId

/-- A range of offsets in a source module. -/
structure Span where
  /-- The first offset. -/
  lo : UInt32
  /-- The offset behind the last one. -/
  hi : UInt32
  /-- The module the offsets count in. -/
  moduleId : ModuleId
  deriving DecidableEq

namespace Span

/-- The empty span at the start of no particular module. -/
def unplaced : Span :=
  ⟨0, 0, .unplaced⟩

/-- Whether the span covers nothing. -/
def isEmpty (span : Span) : Bool :=
  span.lo == span.hi

/-- The number of offsets covered, unless the ends are in the wrong order. -/
def length? (span : Span) : Option UInt32 :=
  if span.lo ≤ span.hi then some (span.hi - span.lo) else none

/-- The module number and both ends, joined by colons. -/
def text (span : Span) : String :=
  ":".intercalate
    [toString span.moduleId.index.toNat, toString span.lo.toNat,
      toString span.hi.toNat]

end Span

end TypeRules
