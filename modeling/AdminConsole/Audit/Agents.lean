import AdminConsole.Audit.Device

/-!
# Known agents

A recogniser that has a table of user agents to go by, for runs of the program.
-/

namespace AdminConsole.Agent

/-- The known agents by their user agent texts. -/
def known : List (String × Agent) :=
  [("Mozilla/5.0 (Windows NT 10.0; Win64; x64) AppleWebKit/537.36 (KHTML, like Gecko) " ++
      "Chrome/120.0.0.0 Safari/537.36", ⟨"Chrome", "Windows 10"⟩),
    ("Mozilla/5.0 (Macintosh; Intel Mac OS X 10_15_7) AppleWebKit/537.36 (KHTML, like Gecko) " ++
      "Chrome/120.0.0.0 Safari/537.36", ⟨"Chrome", "Mac OSX"⟩),
    ("Mozilla/5.0 (X11; Ubuntu; Linux x86_64; rv:121.0) Gecko/20100101 Firefox/121.0",
      ⟨"Firefox", "Linux"⟩),
    ("Mozilla/5.0 (iPhone; CPU iPhone OS 17_0 like Mac OS X) AppleWebKit/605.1.15 " ++
      "(KHTML, like Gecko) Version/17.0 Mobile/15E148 Safari/604.1", ⟨"Safari", "iPhone"⟩),
    ("Mozilla/5.0 (compatible; Googlebot/2.1; +http://www.google.com/bot.html)",
      ⟨"Googlebot", unnamed⟩),
    ("curl/7.64.1", ⟨"HTTP Library", unnamed⟩)]

/-- The agent behind a user agent text, if it is recognised. -/
def ofText? (s : String) : Option Agent := known.lookup s

end AdminConsole.Agent
