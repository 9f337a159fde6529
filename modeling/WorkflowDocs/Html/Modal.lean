import WorkflowDocs.Html.Basic

/-!
# Buttons and dialogs

The graph and the source of a document are shown in dialogs, which buttons open.

## Main definitions

* `Html.graphButton`, `Html.sourceButton`, `Html.actionButtons`: the buttons
* `Html.graphModal`, `Html.sourceModal`: the dialogs
-/

namespace WorkflowDocs.Html

/-- The button that opens the graph. -/
def graphButton : Html :=
  markup r#"    <button onclick="openGraphModal()"
            class="btn-graph"
            title="View workflow graph">
        <svg width="20"
             height="20"
             viewBox="0 0 24 24"
             fill="none"
             stroke="currentColor"
             stroke-width="2">
            <circle cx="18" cy="5" r="3"></circle>
            <circle cx="6" cy="12" r="3"></circle>
            <circle cx="18" cy="19" r="3"></circle>
            <line x1="8.59" y1="13.51" x2="15.42" y2="17.49"></line>
            <line x1="15.41" y1="6.51" x2="8.59" y2="10.49"></line>
        </svg>
        View Graph
    </button>"#

/-- The button that opens the source. -/
def sourceButton : Html :=
  markup r#"    <button onclick="openSourceModal()"
            class="btn-source"
            title="View WDL source code">
        <svg width="20"
             height="20"
             viewBox="0 0 24 24"
             fill="none"
             stroke="currentColor"
             stroke-width="2">
            <polyline points="16 18 22 12 16 6"></polyline>
            <polyline points="8 6 2 12 8 18"></polyline>
        </svg>
        View Source
    </button>"#

/-- A row of buttons. -/
def actionButtons (buttons : Html) : Html :=
  markup r#"    <div style="display: flex; gap: 10px;">"# ++ buttons ++ markup "</div>"

/-- The dialog with the graph of a workflow. The text of the graph is markup of its own and is not
escaped. -/
def graphModal (workflow graph : String) : Html :=
  markup r#"    <div id="graphModal" class="graph-modal">
        <div class="graph-modal-content">
            <div class="graph-modal-header">
                <h2>"# ++ text workflow ++ markup r#" - Workflow Graph</h2>
                <button class="graph-modal-close" onclick="closeGraphModal()">&times;</button>
            </div>
            <div class="graph-modal-controls">
                <button onclick="zoomIn()" title="Zoom In">
                    <svg width="16"
                         height="16"
                         fill="none"
                         stroke="currentColor"
                         viewBox="0 0 24 24">
                        <path stroke-linecap="round" stroke-linejoin="round" stroke-width="2" d="M21 21l-6-6m2-5a7 7 0 11-14 0 7 7 0 0114 0zM10 7v6m3-3H7">
                        </path>
                    </svg>
                    Zoom In
                </button>
                <button onclick="zoomOut()" title="Zoom Out">
                    <svg width="16"
                         height="16"
                         fill="none"
                         stroke="currentColor"
                         viewBox="0 0 24 24">
                        <path stroke-linecap="round" stroke-linejoin="round" stroke-width="2" d="M21 21l-6-6m2-5a7 7 0 11-14 0 7 7 0 0114 0zM13 10H7">
                        </path>
                    </svg>
                    Zoom Out
                </button>
                <button onclick="fitToScreen()" title="Fit to Screen">
                    <svg width="16"
                         height="16"
                         fill="none"
                         stroke="currentColor"
                         viewBox="0 0 24 24">
                        <path stroke-linecap="round" stroke-linejoin="round" stroke-width="2" d="M4 8V4m0 0h4M4 4l5 5m11-1V4m0 0h-4m4 0l-5 5M4 16v4m0 0h4m-4 0l5-5m11 5l-5-5m5 5v-4m0 4h-4">
                        </path>
                    </svg>
                    Fit
                </button>
                <button onclick="resetZoom()" title="Reset View">
                    <svg width="16"
                         height="16"
                         fill="none"
                         stroke="currentColor"
                         viewBox="0 0 24 24">
                        <path stroke-linecap="round" stroke-linejoin="round" stroke-width="2" d="M4 4v5h.582m15.356 2A8.001 8.001 0 004.582 9m0 0H9m11 11v-5h-.581m0 0a8.003 8.003 0 01-15.357-2m15.357 2H15">
                        </path>
                    </svg>
                    Reset
                </button>
            </div>
            <div class="graph-modal-body">
                <div id="graphContainer"></div>
                <div class="zoom-hint">🖱️ Scroll to zoom • Drag to pan • Double-click to reset • ESC to close</div>
            </div>
        </div>
    </div>
    <!-- Hidden mermaid graph data -->
    <div id="graphData" style="display: none;">
        <pre class="mermaid-source">"# ++ markup graph ++ markup r#"</pre>
    </div>
    <script src="https://cdn.jsdelivr.net/npm/svg-pan-zoom@3.6.1/dist/svg-pan-zoom.min.js"></script>
    <!-- Modal logic moved to modules/graph-modal.js -->"#

/-- The dialog with the source of a document. -/
def sourceModal (name source : String) : Html :=
  markup r#"    <div id="sourceModal" class="graph-modal">
        <div class="graph-modal-content">
            <div class="graph-modal-header">
                <h2>"# ++ text name ++ markup r#" - WDL Source Code</h2>
                <button class="graph-modal-close" onclick="closeSourceModal()">&times;</button>
            </div>
            <div class="graph-modal-controls">
                <button onclick="copySourceCode()" title="Copy to clipboard">
                    <svg width="16"
                         height="16"
                         fill="none"
                         stroke="currentColor"
                         viewBox="0 0 24 24">
                        <path stroke-linecap="round" stroke-linejoin="round" stroke-width="2" d="M8 16H6a2 2 0 01-2-2V6a2 2 0 012-2h8a2 2 0 012 2v2m-6 12h8a2 2 0 002-2v-8a2 2 0 00-2-2h-8a2 2 0 00-2 2v8a2 2 0 002 2z">
                        </path>
                    </svg>
                    Copy Code
                </button>
                <span id="copyFeedback"
                      style="color: #58a6ff;
                             margin-left: 10px;
                             display: none">✓ Copied!</span>
            </div>
            <div class="graph-modal-body">
                <div id="sourceContainer">
                    <pre><code class="language-wdl">"# ++ text source ++ markup r#"</code></pre>
                </div>
            </div>
        </div>
    </div>
    <div id="sourceData" style="display: none;">"# ++ text source ++
    markup r#"</div>
    <!-- Modal logic moved to modules/source-modal.js -->"#

end WorkflowDocs.Html
