import DialogStub.Json.Basic

/-!
# The built-in fixtures

* `Fixtures.document` — the fixtures document that is used when no file is named: two sessions,
  two scenarios, the replies of the bot and the payloads of the external endpoints.
-/

namespace DialogStub.Fixtures

open Json

/-- A number of tenths. -/
def tenths (n : Nat) : Json :=
  .real ((Binary64.ofRatio false n 10).getD (.zero false))

/-- The sessions of the built-in fixtures. -/
def defaultSessions : Json :=
  .arr [
    .obj [
      ("last_message", .str "Спасибо за обращение!"),
      ("message_count", .int 8),
      ("scenario_id", .str "greeting-001"),
      ("session_id", .str "session-001"),
      ("start_time", .str "2025-09-24T14:30:00Z"),
      ("status", .str "completed"),
      ("user_id", .str "user-123")],
    .obj [
      ("last_message", .str "Тестируем API..."),
      ("message_count", .int 3),
      ("scenario_id", .str "help-001"),
      ("session_id", .str "session-002"),
      ("start_time", .str "2025-09-24T15:00:00Z"),
      ("status", .str "active")]]

/-- The scenarios of the built-in fixtures. -/
def defaultScenarios : Json :=
  .arr [
    .obj [
      ("category", .str "greeting"),
      ("created_at", .str "2025-09-24T14:00:00Z"),
      ("description", .str "Простой сценарий приветствия с запросом имени"),
      ("id", .str "greeting-001"),
      ("is_active", .bool true),
      ("name", .str "Приветствие пользователя"),
      ("tags", .arr [.str "приветствие", .str "знакомство"]),
      ("updated_at", .str "2025-09-24T14:00:00Z")],
    .obj [
      ("category", .str "support"),
      ("created_at", .str "2025-09-24T14:00:00Z"),
      ("description", .str "Сценарий предоставления помощи"),
      ("id", .str "help-001"),
      ("is_active", .bool true),
      ("name", .str "Помощь пользователю"),
      ("tags", .arr [.str "помощь", .str "поддержка"]),
      ("updated_at", .str "2025-09-24T14:00:00Z")]]

/-- The stamped payload of the built-in fixtures. -/
def defaultData : Json :=
  .obj [
    ("endpoints", .arr [.str "/api/data", .str "/api/info", .str "/api/users"]),
    ("service", .str "external-api"),
    ("stats", .obj [
      ("memory_usage", .str "256MB"),
      ("requests", .int 127),
      ("uptime", .str "2 hours")]),
    ("version", .str "2.1.0")]

/-- The description of the service in the built-in fixtures. -/
def defaultInfo : Json :=
  .obj [
    ("description", .str "Тестовый сервис для ChatBot Platform"),
    ("features", .arr [.str "data_processing", .str "user_management", .str "analytics"]),
    ("health", .str "healthy"),
    ("load", tenths 3),
    ("service_name", .str "Mock External API")]

/-- The users of the built-in fixtures. -/
def defaultUsers : Json :=
  .obj [
    ("active", .int 2),
    ("total", .int 3),
    ("users", .arr [
      .obj [("id", .int 1), ("name", .str "Иван Петров"), ("role", .str "admin")],
      .obj [("id", .int 2), ("name", .str "Мария Сидорова"), ("role", .str "user")],
      .obj [("id", .int 3), ("name", .str "Алексей Козлов"), ("role", .str "moderator")]])]

/-- The nested payload of the built-in fixtures. -/
def defaultComplexData : Json :=
  .obj [
    ("data", .obj [
      ("analytics", .obj [
        ("active_users", .int 342),
        ("reports", .arr [
          .obj [
            ("date", .str "2025-01-04"),
            ("id", .str "daily_report"),
            ("metrics", .obj [
              ("avg_response_time", .str "1.2s"),
              ("conversion_rate", .str "23.5%"),
              ("messages", .int 8934),
              ("sessions", .int 1247)])],
          .obj [
            ("date", .str "2025-01-01"),
            ("id", .str "weekly_report"),
            ("metrics", .obj [
              ("avg_response_time", .str "0.9s"),
              ("conversion_rate", .str "28.1%"),
              ("messages", .int 45231),
              ("sessions", .int 8765)])]]),
        ("total_sessions", .int 15420)]),
      ("config", .obj [
        ("features", .obj [
          ("llm_integration", .bool true),
          ("nlu_enabled", .bool true),
          ("voice_support", .bool false)]),
        ("max_session_duration", .int 3600),
        ("supported_languages", .arr [.str "uk", .str "en", .str "ru"])])]),
    ("endpoints", .arr [
      .str "/api/v1/chat/message",
      .str "/api/v1/scenarios/execute",
      .str "/api/v1/nlu/analyze"]),
    ("server", .obj [
      ("name", .str "orchestrator-service"),
      ("port", .int 8092),
      ("stats", .obj [
        ("cpu_usage", .str "15%"),
        ("memory_usage", .str "256MB"),
        ("requests_count", .int 1247),
        ("uptime", .str "2h 30m")]),
      ("status", .str "running")]),
    ("service", .str "ChatBot Platform"),
    ("timestamp", .str "2025-01-04T12:52:49Z"),
    ("users", .arr [
      .obj [
        ("email", .str "alex@example.com"),
        ("id", .int 1),
        ("name", .str "Олександр Петренко"),
        ("permissions", .arr [.str "read", .str "write", .str "admin"]),
        ("profile", .obj [
          ("avatar", .str "avatar1.jpg"),
          ("settings", .obj [
            ("language", .str "uk"),
            ("notifications", .bool true),
            ("theme", .str "dark")])])],
      .obj [
        ("email", .str "maria@example.com"),
        ("id", .int 2),
        ("name", .str "Марія Іваненко"),
        ("permissions", .arr [.str "read", .str "write"]),
        ("profile", .obj [
          ("avatar", .str "avatar2.jpg"),
          ("settings", .obj [
            ("language", .str "en"),
            ("notifications", .bool false),
            ("theme", .str "light")])])]]),
    ("version", .str "1.0.0")]

/-- The built-in fixtures document. -/
def document : Json :=
  .obj [
    ("demo", .obj [("messages", .arr [.str "тест", .str "-", .str "-", .str "-", .str "-"])]),
    ("external", .obj [
      ("complex_data", defaultComplexData), ("data", defaultData), ("info", defaultInfo),
      ("users", defaultUsers)]),
    ("replies", .obj [
        ("check_balance", .str "Проверяю ваш баланс..."),
        ("fallback", .str "Спасибо за ваше сообщение!"),
        ("greeting", .str "Привет! Я ваш банковский помощник. Що саме вас цікавить?")]),
    ("scenarios", defaultScenarios),
    ("services", .obj [
        ("chat", .obj [("role", .str "session_manager"), ("service", .str "chat-service")]),
        ("nlu", .obj [
          ("role", .str "natural_language_understanding"),
          ("service", .str "nlu-service"),
          ("version", .str "1.0.0")]),
        ("orchestrator", .obj [
          ("role", .str "main_coordinator"),
          ("service", .str "orchestrator")])]),
    ("sessions", defaultSessions)]

end DialogStub.Fixtures
