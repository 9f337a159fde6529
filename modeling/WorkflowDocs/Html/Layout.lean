import WorkflowDocs.Html.Basic

/-!
# The layout of pages

All pages of a site have the same head, navigation and foot. Links to the files of the site start
with the way from the page to the top of the site.

## Main definitions

* `Appearance`: the title and the logo of a site
* `Html.layout`: a page
-/

namespace WorkflowDocs

/-- The name of the program, which is the title of sites that have no other. -/
def programTitle : String := "WDL Atlas"

/-- The title of a site and the file name of its logo. -/
structure Appearance where
  title : String := programTitle
  logo : Option String := none
  deriving DecidableEq, Repr, Inhabited

namespace Html

/-- The logo of a site. -/
def logoImage (look : Appearance) (top : String) : Html :=
  match presentText look.logo with
  | some logo =>
    markup r#"                                <img src=""# ++ text top ++ markup "static/" ++ text logo ++ markup r#"" alt=""# ++ text look.title ++
      markup r#" Logo" class="wdl-logo">
"#
  | none => markup r#"                                <img src=""# ++ text top ++ markup r#"static/logo.png" alt="WDL Logo" class="wdl-logo">
"#

/-- The head of a page, up to the reference to the script of the site. -/
def styleAndDiagrams : String :=
  (r#"static/style.css">
        <!-- Prism.js for syntax highlighting -->
        <link rel="stylesheet"
              href="https://cdnjs.cloudflare.com/ajax/libs/prism/1.29.0/themes/prism-tomorrow.min.css">
        <!-- Mermaid.js for workflow graphs -->
        <script type="module">
"# ++ "        import mermaid from " ++
    "'https://cdn.jsdelivr.net/npm/mermaid@10/dist/mermaid.esm.min.mjs';\n" ++ r#"        mermaid.initialize("# ++ "\x7b" ++ r#"
            startOnLoad: true,
            theme: 'dark',
            themeVariables: "# ++ "\x7b" ++ r#"
                primaryColor: '#a371f7',
                primaryTextColor: '#fff',
                primaryBorderColor: '#8b5cf6',
                lineColor: '#58a6ff',
                secondaryColor: '#1f6feb',
                tertiaryColor: '#161b22',
                background: '#0d1117',
                mainBkg: '#161b22',
                secondBkg: '#21262d',
                border1: '#30363d',
                border2: '#484f58',
                fontSize: '16px',
                fontFamily: 'ui-monospace, SFMono-Regular, "SF Mono", Menlo, Consolas, "Liberation Mono", monospace'
            "# ++ "\x7d" ++ r#",
            flowchart: "# ++ "\x7b" ++ r#"
                curve: 'basis',
                padding: 30,
                nodeSpacing: 80,
                rankSpacing: 100,
                diagramPadding: 20,
                useMaxWidth: true,
                htmlLabels: true
            "# ++ "\x7d" ++ r#"
        "# ++ "\x7d" ++ r#");
        window.mermaid = mermaid;
        </script>
        <!-- Módulos da aplicação -->
        <script type="module" src=""#)

/-- A page with the given parts; `top` is the way to the top of the site. -/
def layout (look : Appearance) (top : String) (title header navigation content : Html) : Html :=
  markup r#"<!DOCTYPE html>
<html lang="en">
    <head>
        <meta charset="UTF-8">
        <meta name="viewport" content="width=device-width, initial-scale=1.0">
        <title>
"# ++ title ++ markup r#"        </title>
        <link rel="icon" type="image/png" href=""# ++ text top ++ markup r#"static/logo.png">
        <link rel="stylesheet" href=""# ++ text top ++
    markup styleAndDiagrams ++ text top ++ markup r#"static/app.js"></script>
    </head>
    <body>
        <header>
            <div class="container">
                <div class="header-content">
                    <div class="header-title">
                        <a href=""# ++ text top ++ markup r#"index.html" style="display: flex; align-items: center; text-decoration: none;">
"# ++
    logoImage look top ++ markup r#"                        </a>
                        <h1>
"# ++ header ++ markup r#"                        </h1>
                    </div>
                    <nav class="nav">
                        <a href=""# ++ text top ++ markup r#"index.html">Home</a>
                        <a href=""# ++
    text top ++ markup r#"docker_images.html">Docker Inventory</a>
"# ++ navigation ++ markup r#"                    </nav>
                </div>
            </div>
        </header>
        <main class="container">
"# ++ content ++ markup r#"        </main>
        <footer>
            <div class="container">
                <p style="text-align: center; color: #666; font-size: 0.9em; margin: 0; padding: 20px 0">
                    Generated by <a href="https://github.com/lmtani/wdl-atlas" target="_blank" rel="noopener">WDL Atlas</a>
                </p>
            </div>
            </div>
        </footer>
        <!-- Prism.js for syntax highlighting -->
        <script src="https://cdnjs.cloudflare.com/ajax/libs/prism/1.29.0/prism.min.js"></script>
        <script src="https://cdnjs.cloudflare.com/ajax/libs/prism/1.29.0/components/prism-bash.min.js"></script>
        <script src="https://cdnjs.cloudflare.com/ajax/libs/prism/1.29.0/components/prism-python.min.js"></script>
        <script src=""# ++
    text top ++ markup r#"static/prism-wdl.js"></script>
    </body>
</html>"#

end Html

end WorkflowDocs
