import ClusterClient.Yaml.Event.Goal

namespace ClusterClient.Yaml

open TokenReader

-- Reads the directives before a document. Each handle may be given a meaning once.
def TagHandles.read (hasVersion : Bool) (handles : TagHandles) : (n : Nat) → TokenReader TagHandles
  | 0 => throw none
  | n + 1 => do
    let t ← peek
    match t.symbol with
    | .versionDirective major minor =>
      if hasVersion then refuse .duplicateVersion t.start
      unless major = 1 ∧ (minor = 1 ∨ minor = 2) do refuse .incompatibleVersion t.start
      skip
      TagHandles.read true handles n
    | .tagDirective handle meaning =>
      if (handles.lookup handle).isSome then refuse .duplicateTagHandle t.start
      skip
      TagHandles.read hasVersion (handles ++ [(handle, meaning)]) n
    | _ => return handles

-- Reads what comes before the first document: which tag handles it uses, and which goals it sets. There
-- is no document in an empty text.
def readOpening : TokenReader (Option (TagHandles × List Goal)) := do
  let t ← peek
  match t.symbol with
  | .streamEnd => return none
  | .versionDirective _ _ | .tagDirective _ _ | .documentStart =>
    let handles ← TagHandles.read false [] ((← get).length + 1)
    let t ← peek
    unless t.symbol = .documentStart do refuse .noDocumentStart t.start
    skip
    return some (handles ++ .standard, [.content, .documentEnd])
  | _ => return some (.standard, [.node true false, .documentEnd])

-- The events of the first document of a text.
structure FirstDocument where
  -- Absent if there is no document.
  events : Option (Excerpt (Event String))
  -- Whether the text ends with the document.
  isLast : Bool

def FirstDocument.ofTokens (tokens : Excerpt Token) : FirstDocument :=
  match readOpening.run tokens.items with
  | .error fault => { events := some { fault := fault <|> tokens.fault }, isLast := false }
  | .ok (none, _) => { events := none, isLast := true }
  | .ok (some (handles, goals), rest) =>
    -- Of four goals in a row, one at least uses up a token.
    match Goal.run handles (4 * rest.length + 4) goals rest with
    | (events, .error fault) =>
      { events := some { items := events, fault := fault <|> tokens.fault }, isLast := false }
    | (events, .ok rest) =>
      let next := rest.dropWhile (·.symbol == .documentEnd)
      { events := some { items := events }, isLast := next.head?.any (·.symbol == .streamEnd) }

end ClusterClient.Yaml
