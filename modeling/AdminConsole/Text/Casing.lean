/-!
# Names as tags

A name is made of words that run together, each with a capital at its front. As a tag it has an
underscore before every capital but the first character, and its letters are all small or all
capital. Only ASCII letters change their case.
-/

namespace AdminConsole.Text

/-- The characters after the first one: small letters, and an underscore before each capital. -/
def separated : List Char → List Char
  | [] => []
  | c :: rest =>
    if c.isUpper then '_' :: c.toLower :: separated rest else c.toLower :: separated rest

/-- The name in small letters, as in `ban_users` for `BanUsers`. -/
def snakeCase (name : String) : String :=
  match name.toList with
  | [] => ""
  | c :: rest => String.ofList (c.toLower :: separated rest)

/-- The name in capitals, as in `AD_MANAGER` for `AdManager`. -/
def screamingSnakeCase (name : String) : String :=
  String.ofList ((snakeCase name).toList.map Char.toUpper)

end AdminConsole.Text
