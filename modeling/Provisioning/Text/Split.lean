/-!
# Cutting a text at a character

* `splitOn` : the parts between the separators, one more than there are separators;
* `joinWith` : parts put together with a separator between them.
-/

namespace Provisioning.Text

def extendHead (c : Char) : List (List Char) → List (List Char)
  | [] => [[c]]
  | w :: ws => (c :: w) :: ws

def splitOn (sep : Char) (s : List Char) : List (List Char) :=
  s.foldr (fun c ws => if c = sep then [] :: ws else extendHead c ws) [[]]

def joinWith (sep : List Char) : List (List Char) → List Char
  | [] => []
  | [w] => w
  | w :: ws => w ++ sep ++ joinWith sep ws

end Provisioning.Text
