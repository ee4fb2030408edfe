namespace AuthGate.Text

def splitAt (sep : Char) : List Char → List (List Char)
  | [] => [[]]
  | c :: r =>
    if c = sep then [] :: splitAt sep r
    else match splitAt sep r with
      | [] => [[c]]
      | s :: ss => (c :: s) :: ss

end AuthGate.Text
