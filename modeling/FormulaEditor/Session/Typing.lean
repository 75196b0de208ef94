import FormulaEditor.Provider
import FormulaEditor.Session.Basic

/-! # Typing into a session

Here each lookup returns before anything else happens. A text is typed glyph by glyph: operators and
line ends are keys, and every other glyph extends the fragment. What is left at the end is
committed.
-/

namespace FormulaEditor

/-- A session with its provider. -/
structure Editor where
  session : Session
  provider : Provider
  deriving Inhabited

namespace Editor

/-- Sets the fragment and takes what the lookup finds. The result tells whether a lookup was taken,
or is the failure that ended it. -/
def setInput (e : Editor) (text : RawText) : Editor × Except Remote.Breakdown Bool :=
  match e.session.begin text with
  | (session, none) => ({ e with session }, .ok false)
  | (session, some request) =>
    match e.provider.lookup text with
    | (.error b, provider) => (⟨session, provider⟩, .error b)
    | (.ok found, provider) =>
      let (session, taken) := session.arrive request found
      (⟨session, provider⟩, .ok taken)

/-- Extends the fragment by one glyph. -/
def extend (e : Editor) (g : Glyph) : Editor × Except Remote.Breakdown Bool :=
  e.setInput (e.session.pending.push g)

/-- Extends the fragment character by character, up to a failure. -/
def extendAll (e : Editor) : List Char → Editor × Except Remote.Breakdown (List Bool)
  | [] => (e, .ok [])
  | c :: rest =>
    match e.extend (.char c) with
    | (e, .error b) => (e, .error b)
    | (e, .ok taken) =>
      let (e, more) := e.extendAll rest
      (e, more.map (taken :: ·))

def press (e : Editor) (key : Key) : Editor := { e with session := (e.session.press key).1 }

/-- The key that a glyph is typed with, if it does not go into the fragment. -/
def keyOf? : Glyph → Option Key
  | .char c =>
    match Operator.ofChar? c with
    | some op => some (.operator op)
    | none => if c = '\n' then some .enter else none
  | .half _ => none

def typeGlyph (e : Editor) (g : Glyph) : Editor × Except Remote.Breakdown Unit :=
  match keyOf? g with
  | some key => (e.press key, .ok ())
  | none =>
    let (e, taken) := e.extend g
    (e, taken.map fun _ => ())

/-- Types glyphs, up to a failure. -/
def typeGlyphs (e : Editor) : List Glyph → Editor × Except Remote.Breakdown Unit
  | [] => (e, .ok ())
  | g :: rest =>
    match e.typeGlyph g with
    | (e, .error b) => (e, .error b)
    | (e, .ok ()) => e.typeGlyphs rest

/-- Types a text and commits what is left of it. -/
def typeText (e : Editor) (text : RawText) : Editor × Except Remote.Breakdown Unit :=
  match e.typeGlyphs text.glyphs with
  | (e, .error b) => (e, .error b)
  | (e, .ok ()) =>
    (if e.session.pending.isBlank then e else e.press .enter, .ok ())

end Editor

end FormulaEditor
