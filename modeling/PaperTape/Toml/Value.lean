namespace PaperTape.Toml

inductive Value where
  | text (text : String)
  | integer (number : Int)
  | real (spelling : String)
  | truth (value : Bool)
  | moment (spelling : String)
  | array (items : List Value)
  | table (entries : List (String × Value))

end PaperTape.Toml
