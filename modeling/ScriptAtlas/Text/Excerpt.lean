/-! Shortened texts for signatures. -/
namespace ScriptAtlas.Text

/-- The text itself if it has at most `limit` characters, else its first `limit` and three dots. -/
def excerpt (text : String) (limit : Nat) : String :=
  if text.length ≤ limit then text
  else String.ofList (text.toList.take limit) ++ "..."

end ScriptAtlas.Text
