/-!
# Fragment/Template — the code fragments and their slots

A fragment is a few lines of code with slots in them: the route pattern, the model name, the filter,
the definition and the field names.  What is put into a slot stands there as it is.
-/

namespace RamlExpress

/-- The fragments of code. -/
inductive Template where
  | get
  | post
  | put
  | delete
  | schema
deriving Repr, DecidableEq

/-- What is put into the slots. -/
structure Slots where
  uri : String := ""
  model : String := ""
  /-- The filter with a comma behind it, or nothing. -/
  filter : String := ""
  definition : String := ""
  fields : List String := []
deriving Repr, DecidableEq

namespace Template

/-- All templates. -/
def all : List Template := [get, post, put, delete, schema]

/-- The members of a new item, each read from the request, with commas between them. -/
def memberLines : List String → List String
  | [] => []
  | [field] => ["        " ++ field ++ ": req.body." ++ field]
  | field :: rest => ("        " ++ field ++ ": req.body." ++ field ++ ",") :: memberLines rest

/-- The assignments to a stored item, each read from the request. -/
def assignmentLines (fields : List String) : List String :=
  fields.map fun field => "      item." ++ field ++ " = req.body." ++ field ++ ";"

/-- The first line of a route. -/
def routeLine (verb : String) (uri : String) : String :=
  "  app." ++ verb ++ "('" ++ uri ++ "', function (req, res)\x7b"

/-- Sends all items. -/
def getLines (slots : Slots) : List String :=
  [routeLine "get" slots.uri,
    "    return " ++ slots.model ++ "Model.find(" ++ slots.filter ++ "function (err, items) \x7b",
    "      if (!err) \x7b",
    "        return res.send(items);",
    "      \x7d else \x7b",
    "        console.log(err);",
    "        return res.status(500).send(err);",
    "      \x7d",
    "    \x7d);",
    "  \x7d);"]

/-- Stores a new item. -/
def postLines (slots : Slots) : List String :=
  [routeLine "post" slots.uri,
    "    var item;",
    "    console.log(req.body);",
    "    item = new " ++ slots.model ++ "Model(\x7b"]
  ++ memberLines slots.fields ++
  ["    \x7d);",
    "    item.save(function (err) \x7b",
    "      if (!err) \x7b",
    "        console.log('created');",
    "        return res.send(item);",
    "      \x7d else \x7b",
    "        console.log(err);",
    "        return res.status(500).send(err);",
    "      \x7d",
    "    \x7d);",
    "  \x7d);"]

/-- Finds one item, or answers that there is none. -/
def findLines (slots : Slots) : List String :=
  ["    return " ++ slots.model ++ "Model.findOne(" ++ slots.filter ++ "function (err, item) \x7b",
    "      if (err) \x7b",
    "        console.log(err);",
    "        return res.status(500).send(err);",
    "      \x7d",
    "      if (!item) \x7b",
    "        return res.status(404).send('');",
    "      \x7d"]

/-- Changes a stored item. -/
def putLines (slots : Slots) : List String :=
  [routeLine "put" slots.uri] ++ findLines slots ++ assignmentLines slots.fields ++
  ["      return item.save(function (err) \x7b",
    "        if (!err) \x7b",
    "          console.log('updated');",
    "          return res.send(item);",
    "        \x7d else \x7b",
    "          console.log(err);",
    "          return res.status(500).send(err);",
    "        \x7d",
    "      \x7d);",
    "    \x7d);",
    "  \x7d);"]

/-- Removes a stored item. -/
def deleteLines (slots : Slots) : List String :=
  [routeLine "delete" slots.uri] ++ findLines slots ++
  ["      return item.remove(function (err) \x7b",
    "        if (!err) \x7b",
    "          console.log('removed');",
    "          return res.send('');",
    "        \x7d else \x7b",
    "          console.log(err);",
    "          return res.status(500).send(err);",
    "        \x7d",
    "      \x7d);",
    "    \x7d);",
    "  \x7d);"]

/-- Declares the schema and the model of a resource. -/
def schemaLines (slots : Slots) : List String :=
  ["  var " ++ slots.model ++ " = new Schema(" ++ slots.definition ++ ", \x7b _id: false \x7d  );",
    "  var " ++ slots.model ++ "Model = mongoose.model(\"" ++ slots.model ++ "\", " ++ slots.model
      ++ ");"]

/-- The lines of a template with its slots filled. -/
def lines : Template → Slots → List String
  | get => getLines
  | post => postLines
  | put => putLines
  | delete => deleteLines
  | schema => schemaLines

/-- **A template with its slots filled.** -/
def render (template : Template) (slots : Slots) : String :=
  "\n".intercalate (template.lines slots)

end Template

end RamlExpress
