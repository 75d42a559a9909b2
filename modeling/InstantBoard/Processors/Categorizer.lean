import InstantBoard.Processors.Base
import Mathlib.Data.List.Sort

/-!
# The categorizer processor

The keyword table, `TechTopicExtractor` and `CategorizerProcessor`. A set of tags is a list of its
elements; `_sort_tags` gives the same list for every order of them.
-/

namespace InstantBoard

def KEYWORD_TO_TAG : List (String × List String) :=
  [("GPT", ["ai", "llm"]), ("GPT-4", ["ai", "llm"]), ("GPT-4o", ["ai", "llm"]),
   ("Claude", ["ai", "llm"]), ("Llama", ["ai", "llm"]), ("Llama-3", ["ai", "llm"]),
   ("Gemini", ["ai", "llm", "multimodal"]), ("Sora", ["ai", "generative-ai", "llm"]),
   ("transformer", ["ai", "llm"]), ("deep learning", ["ai", "llm"]),
   ("neural network", ["ai", "llm"]), ("LLM", ["ai", "llm"]),
   ("large language model", ["ai", "llm"]), ("machine learning", ["ai"]), ("ML", ["ai"]),
   ("artificial intelligence", ["ai"]), ("AI", ["ai"]), ("DALL-E", ["ai", "generative-ai"]),
   ("Midjourney", ["ai", "generative-ai"]), ("Stable Diffusion", ["ai", "generative-ai"]),
   ("image generation", ["ai", "generative-ai"]), ("video generation", ["ai", "generative-ai"]),
   ("3D generation", ["ai", "generative-ai"]),
   ("NVIDIA", ["ai", "ai-hardware", "embedded", "chip-design"]),
   ("NVIDIA GPU", ["ai", "ai-hardware"]), ("GPU", ["ai", "ai-hardware"]),
   ("TPU", ["ai", "ai-hardware"]), ("NPU", ["ai", "ai-hardware", "embedded", "embedded-ai"]),
   ("Groq", ["ai", "ai-hardware"]), ("HBM", ["ai", "ai-hardware"]),
   ("alignment", ["ai", "ai-ethics"]), ("AI safety", ["ai", "ai-ethics"]),
   ("AI bias", ["ai", "ai-ethics"]), ("AI regulation", ["ai", "ai-ethics"]),
   ("explainable AI", ["ai", "ai-ethics"]), ("multimodal", ["ai", "multimodal"]),
   ("vision language", ["ai", "multimodal"]), ("visual language model", ["ai", "multimodal"]),
   ("speech AI", ["ai", "multimodal"]), ("OCR", ["ai", "multimodal"]),
   ("AutoGPT", ["ai", "ai-agent"]), ("LangChain", ["ai", "ai-agent"]), ("RAG", ["ai", "ai-agent"]),
   ("Coding Agent", ["ai", "ai-agent"]), ("AI assistant", ["ai", "ai-agent"]),
   ("AI agent", ["ai", "ai-agent"]), ("chatgpt", ["ai", "llm", "ai-agent"]),
   ("openai", ["ai", "llm"]), ("anthropic", ["ai", "llm", "ai-ethics"]), ("prompt", ["ai", "llm"]),
   ("fine-tuning", ["ai", "llm"]), ("reasoning", ["ai", "llm"]),
   ("inference", ["ai", "ai-hardware", "llm"]),
   ("quantization", ["ai", "ai-hardware", "embedded-ai"]),
   ("model compression", ["ai", "ai-hardware", "embedded-ai"]),
   ("Atlas", ["robotics", "humanoid"]), ("Optimus", ["robotics", "humanoid"]),
   ("Figure", ["robotics", "humanoid"]), ("Figure 01", ["robotics", "humanoid"]),
   ("humanoid", ["robotics", "humanoid"]), ("bipedal", ["robotics", "humanoid"]),
   ("双足", ["robotics", "humanoid"]), ("运动控制", ["robotics", "humanoid"]),
   ("AMR", ["robotics", "industrial"]), ("AGV", ["robotics", "industrial"]),
   ("welding robot", ["robotics", "industrial"]), ("assembly robot", ["robotics", "industrial"]),
   ("flexible manufacturing", ["robotics", "industrial"]), ("产线自动化", ["robotics", "industrial"]),
   ("UR", ["robotics", "cobot"]), ("Franka", ["robotics", "cobot"]),
   ("collaborative robot", ["robotics", "cobot"]), ("cobot", ["robotics", "cobot"]),
   ("ISO 10218", ["robotics", "cobot"]), ("Waymo", ["robotics", "autonomous-driving"]),
   ("Tesla FSD", ["robotics", "autonomous-driving"]),
   ("autonomous driving", ["robotics", "autonomous-driving"]),
   ("self-driving", ["robotics", "autonomous-driving"]),
   ("lidar", ["robotics", "autonomous-driving"]), ("V2X", ["robotics", "autonomous-driving"]),
   ("L4", ["robotics", "autonomous-driving"]), ("L5", ["robotics", "autonomous-driving"]),
   ("eVTOL", ["robotics", "drone"]), ("drone", ["robotics", "drone"]),
   ("UAV", ["robotics", "drone"]), ("农业植保", ["robotics", "drone"]), ("无人机", ["robotics", "drone"]),
   ("ROS2", ["robotics", "robot-software"]), ("ROS", ["robotics", "robot-software"]),
   ("MoveIt", ["robotics", "robot-software"]), ("Isaac Sim", ["robotics", "robot-software"]),
   ("simulation", ["robotics", "robot-software"]), ("robot", ["robotics"]),
   ("robotics", ["robotics"]), ("autonomous", ["robotics", "autonomous-driving"]),
   ("automation", ["robotics", "industrial"]), ("MQTT", ["embedded", "iot-edge"]),
   ("CoAP", ["embedded", "iot-edge"]), ("edge computing", ["embedded", "iot-edge"]),
   ("边缘计算", ["embedded", "iot-edge"]), ("digital twin", ["embedded", "iot-edge"]),
   ("IoT", ["embedded", "iot-edge"]), ("TinyML", ["embedded", "embedded-ai", "iot-edge"]),
   ("sensor", ["embedded", "iot-edge"]), ("RISC-V", ["embedded", "risc-v"]),
   ("RV32", ["embedded", "risc-v"]), ("RV64", ["embedded", "risc-v"]),
   ("vector extension", ["embedded", "risc-v"]), ("open source ISA", ["embedded", "risc-v"]),
   ("FreeRTOS", ["embedded", "rtos"]), ("Zephyr", ["embedded", "rtos"]),
   ("RTLinux", ["embedded", "rtos"]), ("RTOS", ["embedded", "rtos"]),
   ("real-time OS", ["embedded", "rtos"]), ("实时操作系统", ["embedded", "rtos"]),
   ("FPGA", ["embedded", "fpga"]), ("Xilinx", ["embedded", "fpga"]),
   ("Altera", ["embedded", "fpga"]), ("HLS", ["embedded", "fpga"]),
   ("partial reconfiguration", ["embedded", "fpga"]), ("EDA", ["embedded", "chip-design"]),
   ("Chiplet", ["embedded", "chip-design"]), ("3D packaging", ["embedded", "chip-design"]),
   ("post-Moore", ["embedded", "chip-design"]), ("芯片设计", ["embedded", "chip-design"]),
   ("embedded", ["embedded"]), ("firmware", ["embedded", "iot-edge"]),
   ("microcontroller", ["embedded", "iot-edge"]), ("MCU", ["embedded", "iot-edge"]),
   ("Arduino", ["embedded", "iot-edge"]), ("Raspberry Pi", ["embedded", "iot-edge"]),
   ("Starlink", ["space", "satellite-internet"]), ("Kuiper", ["space", "satellite-internet"]),
   ("OneWeb", ["space", "satellite-internet"]),
   ("satellite internet", ["space", "satellite-internet"]),
   ("phased array", ["space", "satellite-internet"]), ("相控阵", ["space", "satellite-internet"]),
   ("SpaceX", ["space", "commercial-space", "rocket-tech"]),
   ("Blue Origin", ["space", "commercial-space"]), ("Rocket Lab", ["space", "commercial-space"]),
   ("commercial space", ["space", "commercial-space"]), ("商业航天", ["space", "commercial-space"]),
   ("launch market", ["space", "commercial-space"]), ("Mars", ["space", "deep-space"]),
   ("moon base", ["space", "deep-space"]), ("月球基地", ["space", "deep-space"]),
   ("deep space", ["space", "deep-space"]), ("深空探测", ["space", "deep-space"]),
   ("telescope", ["space", "deep-space"]), ("planetary science", ["space", "deep-space"]),
   ("ISS", ["space", "orbital"]), ("Tiangong", ["space", "orbital"]), ("天宫", ["space", "orbital"]),
   ("in-orbit", ["space", "orbital"]), ("在轨服务", ["space", "orbital"]),
   ("space debris", ["space", "orbital"]), ("reusable rocket", ["space", "rocket-tech"]),
   ("可回收", ["space", "rocket-tech"]), ("liquid oxygen methane", ["space", "rocket-tech"]),
   ("液氧甲烷", ["space", "rocket-tech"]), ("rocket engine", ["space", "rocket-tech"]),
   ("发动机创新", ["space", "rocket-tech"]), ("ISRU", ["space", "space-manufacturing"]),
   ("太空3D打印", ["space", "space-manufacturing"]), ("月球采矿", ["space", "space-manufacturing"]),
   ("原位资源利用", ["space", "space-manufacturing"]), ("space", ["space"]),
   ("rocket", ["space", "rocket-tech"]), ("satellite", ["space", "satellite-internet"]),
   ("NASA", ["space", "deep-space"]), ("ESA", ["space", "deep-space"]),
   ("astronaut", ["space", "orbital"]), ("S&P 500", ["finance", "market-indices"]),
   ("沪深300", ["finance", "china-stock"]), ("上证指数", ["finance", "china-stock"]),
   ("NAV", ["finance", "fund-nav"]), ("基金净值", ["finance", "fund-nav"]),
   ("ETF", ["finance", "fund-nav"]), ("估值", ["finance", "fund-nav"]),
   ("gold", ["finance", "commodities"]), ("黄金", ["finance", "commodities"]),
   ("crude oil", ["finance", "commodities"]), ("原油", ["finance", "commodities"]),
   ("期货", ["finance", "commodities"]), ("A股", ["finance", "china-stock"]),
   ("指数", ["finance", "market-indices"]), ("股票", ["finance", "china-stock"]),
   ("行情", ["finance", "china-stock"])]

namespace TechTopicExtractor

def level1Order : List String :=
  ["finance", "tech", "robotics", "ai", "embedded", "space"]

def level2Order : List String :=
  ["china-stock", "market-indices", "commodities", "fund-nav", "watchlist", "humanoid",
   "industrial", "cobot", "autonomous-driving", "drone", "robot-software", "llm", "generative-ai",
   "ai-hardware", "ai-ethics", "multimodal", "ai-agent", "iot-edge", "risc-v", "rtos", "fpga",
   "chip-design", "embedded-ai", "commercial-space", "satellite-internet", "deep-space", "orbital",
   "rocket-tech", "space-manufacturing"]

/-- `_sort_tags`. -/
def sortTags (tags : List String) : List String :=
  let result := level1Order.filter (· ∈ tags)
  let result := level2Order.foldl
    (fun result tag => if tag ∈ tags ∧ tag ∉ result then result ++ [tag] else result) result
  (tags.insertionSort (· ≤ ·)).foldl
    (fun result tag => if tag ∉ result then result ++ [tag] else result) result

/-- `extract_tags`. -/
def extractTags (py : Stdlib) (text : String) : List String :=
  let textLower := py.lower text
  let tagsSet := (KEYWORD_TO_TAG.filter fun k => Text.contains textLower (py.lower k.1)).flatMap (·.2)
  sortTags (if tagsSet.isEmpty then ["general"] else tagsSet)

/-- `extract_with_level1`. -/
def extractWithLevel1 (py : Stdlib) (text level1Tag : String) : List String :=
  let tags := extractTags py text
  if level1Tag ∈ tags then tags else level1Tag :: tags

end TechTopicExtractor

namespace CategorizerProcessor

/-- `f"{item.get('title', '')} {item.get('summary', '')}"`. -/
def text (py : Stdlib) (item : Dict) : String :=
  (item.getD "title" (.str "")).format py ++ " " ++ (item.getD "summary" (.str "")).format py

/-- `_determine_finance_tags`. -/
def determineFinanceTags (py : Stdlib) (item : Dict) : Except PyError (List String) := do
  let title ← (item.getD "title" (.str "")).strAttr "lower"
  let summary ← (item.getD "summary" (.str "")).strAttr "lower"
  let text := py.lower title ++ " " ++ py.lower summary
  let extra := (item.getD "extra_data" (.obj [])).or (.obj [])
  let type := item.getD "type" .null
  if type.isStr "cn_stock" then pure ["china-stock"] else do
  let fields ← extra.dictGet
  if (fields.getD "region" .null).isStr "CN" then pure ["china-stock"]
  else if type.isStr "index" || type.isStr "cn_index" then pure ["market-indices"]
  else if type.isStr "commodity" then pure ["commodities"]
  else if ["etf", "nav", "估值", "基金净值", "fund"].any (Text.contains text) then pure ["fund-nav"]
  else if ["指数", "index", "s&p", "nasdaq", "沪深300", "上证", "深证"].any (Text.contains text) then
    pure ["market-indices"]
  else if ["黄金", "原油", "gold", "oil", "commodity", "期货", "大宗商品"].any
      (Text.contains text) then pure ["commodities"]
  else pure ["china-stock"]

/-- A list of tags as a value. -/
def tagList (tags : List String) : Json :=
  .arr (tags.map .str)

/-- `process`. The category id is in the dictionary before the finance branch can raise. -/
def process (py : Stdlib) (source : CollectedSource) (item : Dict) : Outcome :=
  match source.category with
  | none =>
    .returned (item.set "topic_tags" (tagList (TechTopicExtractor.extractTags py (text py item))))
  | some category =>
    let item := item.set "category_id" (.str category.id)
    if category.type = "tech" then
      .returned (item.set "topic_tags"
        (tagList (TechTopicExtractor.extractWithLevel1 py (text py item) category.slug)))
    else if category.type = "finance" then
      match determineFinanceTags py item with
      | .ok financeTags => .returned (item.set "topic_tags" (tagList ("finance" :: financeTags)))
      | .error e => .raised e item
    else .returned (item.set "topic_tags" (tagList [category.slug]))

/-- The categorizer rejects nothing. -/
lemma process_ne_rejected (py : Stdlib) (source : CollectedSource) (item : Dict) :
    process py source item ≠ .rejected := by
  unfold process
  split
  next => exact nofun
  next category _ =>
    dsimp only
    split
    · exact nofun
    · split
      · split <;> exact nofun
      · exact nofun

/-- Keys other than the two the categorizer writes read as before. -/
lemma get?_of_process {py : Stdlib} {source : CollectedSource} {item item' : Dict} {key : String}
    (h : process py source item = .returned item') (hc : key ≠ "category_id")
    (ht : key ≠ "topic_tags") : item'.get? key = item.get? key := by
  unfold process at h
  split at h
  next =>
    cases h
    rw [Dict.get?_set, if_neg ht]
  next category _ =>
    dsimp only at h
    split at h
    · cases h
      rw [Dict.get?_set, if_neg ht, Dict.get?_set, if_neg hc]
    · split at h
      · split at h
        · cases h
          rw [Dict.get?_set, if_neg ht, Dict.get?_set, if_neg hc]
        · cases h
      · cases h
        rw [Dict.get?_set, if_neg ht, Dict.get?_set, if_neg hc]

end CategorizerProcessor

end InstantBoard
